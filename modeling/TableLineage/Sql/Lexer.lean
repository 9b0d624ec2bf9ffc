import TableLineage.Sql.Lexer.Operator

/-!
# Lexing SQL

`lex` turns a text into lexemes, or fails when a literal, a quoted identifier or
a block comment is left open or an operator is broken off.
-/

namespace TableLineage.Sql

open TableLineage.Text

namespace Lexer

/-- Letters that are words of their own accord in a dialect, whatever its identifiers start with. -/
def opensWord (d : Dialect) (c : Char) : Bool :=
  match c with
  | 'B' | 'b' => d.byteStrings
  | 'R' | 'r' => d.rawStrings
  | 'E' | 'e' => d.escapeStrings
  | 'U' | 'u' => d.unicodeStrings
  | 'N' | 'n' | 'X' | 'x' => true
  | _ => false

/-- The piece that starts with `c`; `afterWord` and `afterPeriod` describe the token that ends
right before it. -/
def piece (d : Dialect) (afterWord afterPeriod : Bool) (c : Char) (rest : List Char) : Step :=
  if c == ' ' || c == '\t' || c == '\n' || c == '\r' then some (.gap, rest)
  else
    match markedLiteral d c rest with
    | some step => step
    | none =>
        if opensWord d c then wordFrom d [c] rest
        else if c == '\'' then dialectString d "" '\'' (.ofDialect d) rest
        else
          match d.quoteEnd? c with
          | some close =>
              (quotedIdent close rest).map fun (text, left) =>
                (.token (.word (Word.quoted text c)), left)
          | none =>
              if c == '"' then dialectString d "" '"' (.ofDialect d) rest
              else if c == '.' && rest.head? == some '_' then
                if afterWord then symbol "." rest else none
              else if c == '.' || isAsciiDigit c then number d afterWord afterPeriod (c :: rest)
              else
                match c with
                | '(' | ')' | ',' | ';' | '[' | ']' | '\x7b' | '\x7d' | '*' | '+' | '\\' =>
                    symbol (String.singleton c) rest
                | '-' => minus d rest
                | '/' => slash d rest
                | '%' => percent d rest
                | '|' => pipe d rest
                | '=' =>
                    match rest with
                    | '>' :: rest' => symbol "=>" rest'
                    | '=' :: rest' => symbol "==" rest'
                    | _ => symbol "=" rest
                | '!' => bang rest
                | '<' => less d rest
                | '>' => greater d rest
                | ':' =>
                    match rest with
                    | ':' :: rest' => symbol "::" rest'
                    | '=' :: rest' => symbol ":=" rest'
                    | _ => symbol ":" rest
                | '&' => ampersand d rest
                | '^' =>
                    match rest with
                    | '@' :: rest' => symbol "^@" rest'
                    | _ => symbol "^" rest
                | '#' => if d.hashComments then lineComment d rest else sharp d rest
                | '~' => tilde d rest
                | '@' => atSign d rest
                | '?' => question d rest
                | _ =>
                    if d.isIdentStart c then identOrNumber d [c] rest
                    else if c == '$' then dollarValue rest
                    else if isBlank c then some (.gap, rest)
                    else done (.stray c) rest

def endsInWord (spaced : Bool) : List Lexeme → Bool
  | ⟨.word _, _⟩ :: _ => !spaced
  | _ => false

def endsInPeriod (spaced : Bool) : List Lexeme → Bool
  | ⟨.symbol ".", _⟩ :: _ => !spaced
  | _ => false

/-- `before` holds the lexemes already read, the last first; every piece takes at least one
character, so a budget of one step per character is enough. -/
def lexFrom (d : Dialect) (before : List Lexeme) (spaced : Bool) :
    Nat → List Char → Option (List Lexeme)
  | _, [] => some before.reverse
  | 0, _ :: _ => none
  | budget + 1, c :: rest =>
      match piece d (endsInWord spaced before) (endsInPeriod spaced before) c rest with
      | none => none
      | some (.gap, left) => lexFrom d before true budget left
      | some (.token token, left) => lexFrom d (⟨token, spaced⟩ :: before) false budget left

end Lexer

def lex (d : Dialect) (text : List Char) : Option (List Lexeme) :=
  Lexer.lexFrom d [] false text.length text

end TableLineage.Sql
