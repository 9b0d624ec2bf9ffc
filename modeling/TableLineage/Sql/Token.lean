import TableLineage.Sql.Keyword
import TableLineage.Text.LetterCase

/-!
# SQL tokens

Blanks and comments are not tokens; a token only remembers whether one of them
stood before it, which the few rules about unspaced names need.
-/

namespace TableLineage.Sql

open TableLineage.Text

/-- A bare or quoted word.  `keyword` is the capital form of a bare word and empty for a quoted
one, so a quoted word is never taken for a keyword. -/
structure Word where
  text : String
  quote : Option Char
  keyword : String
deriving DecidableEq, Repr

namespace Word

def bare (text : List Char) : Word where
  text := String.ofList text
  quote := none
  keyword := ((uppercaseAscii? text).map String.ofList).getD ""

def quoted (text : List Char) (quote : Char) : Word where
  text := String.ofList text
  quote := some quote
  keyword := ""

def isKeyword (word : Word) : Bool := keywords.contains word.keyword

end Word

/-- How a string literal is marked off; the marks of `framed` stand around its text. -/
inductive StringKind
  | single
  | double
  | hex
  | national
  | escaped
  | unicode
  | dollar (label : String)
  | framed (opening closing : String)
deriving DecidableEq, Repr

inductive Token
  | word (word : Word)
  | number (text : String) (long : Bool)
  | string (kind : StringKind) (text : String)
  | placeholder (text : String)
  | symbol (text : String)
  | customOperator (text : String)
  | stray (char : Char)
deriving DecidableEq, Repr

structure Lexeme where
  token : Token
  spaced : Bool
deriving DecidableEq, Repr

end TableLineage.Sql
