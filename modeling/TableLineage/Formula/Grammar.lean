import TableLineage.Formula.Token

/-!
# The grammar of a formula line

What a line consists of, said without a reader: gaps of blanks and comments,
tokens of the forms that belong to their kinds, and at the end a last gap or
something left open.  Where a part ends may depend on what stands behind it,
so every part is described in view of the text that follows.
-/

namespace TableLineage.Formula

open TableLineage.Text

/-- A blank or a comment, and the text behind it.  The line feed behind a line comment does not
belong to it. -/
inductive GapPiece : List Char → List Char → Prop
  | blank {c : Char} {rest : List Char} :
      c ∈ [' ', '\t', '\r', '\n'] → GapPiece [c] rest
  | lineComment {body rest : List Char} :
      '\n' ∉ body → (∀ c ∈ rest.head?, c = '\n') → GapPiece ('/' :: '/' :: body) rest
  | blockComment {body rest : List Char} :
      ¬ ['*', '/'] <:+: body → GapPiece ('/' :: '*' :: (body ++ ['*', '/'])) rest

inductive Gap : List Char → List Char → Prop
  | nil {rest : List Char} : Gap [] rest
  | cons {piece gap rest : List Char} :
      GapPiece piece (gap ++ rest) → Gap gap rest → Gap (piece ++ gap) rest

inductive Doubled : List Char → Prop
  | nil : Doubled []
  | plain {c : Char} {body : List Char} : c ≠ '"' → Doubled body → Doubled (c :: body)
  | pair {body : List Char} : Doubled body → Doubled ('"' :: '"' :: body)

/-- Characters of one class, and dots that each stand before a character of another. -/
inductive Dotted (part afterDot : Char → Bool) : List Char → Prop
  | nil : Dotted part afterDot []
  | part {c : Char} {tail : List Char} :
      part c = true → Dotted part afterDot tail → Dotted part afterDot (c :: tail)
  | dot {c : Char} {tail : List Char} :
      afterDot c = true → Dotted part afterDot (c :: tail) → Dotted part afterDot ('.' :: c :: tail)

/-- The text begins with one more character that a dotted text may go on with. -/
def Continues (part afterDot : Char → Bool) (text : List Char) : Prop :=
  ∃ c tail, text = c :: tail ∧ (part c = true ∨ c = '.' ∧ ∃ d ∈ tail.head?, afterDot d = true)

def isNamePart (c : Char) : Bool := isLetterOrNumeric c || c == '_'

/-- What follows the first character of a number, up to the end of the number. -/
def Digits (tail rest : List Char) : Prop :=
  Dotted isAsciiDigit isAsciiDigit tail ∧ ¬ Continues isAsciiDigit isAsciiDigit rest

/-- What follows the first character of a name, up to the end of the name. -/
def NameTail (tail rest : List Char) : Prop :=
  Dotted isNamePart isLetter tail ∧ ¬ Continues isNamePart isLetter rest

def marks : List Char := ['(', ')', '[', ']', '\x7b', '\x7d', ',', '=', '/', '"', '#']

inductive Shape : Kind → List Char → List Char → Prop
  | leftParen {rest : List Char} : Shape .leftParen ['('] rest
  | rightParen {rest : List Char} : Shape .rightParen [')'] rest
  | leftSquare {rest : List Char} : Shape .leftSquare ['['] rest
  | rightSquare {rest : List Char} : Shape .rightSquare [']'] rest
  | leftBrace {rest : List Char} : Shape .leftBrace ['\x7b'] rest
  | rightBrace {rest : List Char} : Shape .rightBrace ['\x7d'] rest
  | comma {rest : List Char} : Shape .comma [','] rest
  | equal {rest : List Char} : rest.head? ≠ some '>' → Shape .equal ['='] rest
  | string {body rest : List Char} :
      Doubled body → rest.head? ≠ some '"' → Shape .string ('"' :: (body ++ ['"'])) rest
  | quotedIdentifier {body rest : List Char} :
      Doubled body → rest.head? ≠ some '"' →
        Shape .quotedIdentifier ('#' :: '"' :: (body ++ ['"'])) rest
  | number {c : Char} {tail rest : List Char} :
      isAsciiDigit c = true → Digits tail rest → Shape .number (c :: tail) rest
  | identifier {c : Char} {tail rest : List Char} :
      isLetter c = true ∨ c = '_' → NameTail tail rest → Shape .identifier (c :: tail) rest
  | hashIdentifier {c : Char} {tail rest : List Char} :
      isLetter c = true → NameTail (c :: tail) rest → Shape .identifier ('#' :: c :: tail) rest
  | arrow {rest : List Char} : Shape .other ['=', '>'] rest
  | slash {rest : List Char} :
      rest.head? ≠ some '/' → rest.head? ≠ some '*' → Shape .other ['/'] rest
  | hash {rest : List Char} :
      rest.head? ≠ some '"' → (∀ c ∈ rest.head?, isLetter c = false) → Shape .other ['#'] rest
  | other {c : Char} {rest : List Char} :
      c ∉ marks → c ∉ [' ', '\t', '\r', '\n'] → isAsciiDigit c = false → isLetter c = false →
        c ≠ '_' → Shape .other [c] rest

inductive Open : Unclosed → List Char → Prop
  | string {body : List Char} : Doubled body → Open .literal ('"' :: body)
  | quotedIdentifier {body : List Char} : Doubled body → Open .literal ('#' :: '"' :: body)
  | comment {body : List Char} : ¬ ['*', '/'] <:+: body → Open .comment ('/' :: '*' :: body)

def Step.Fits : Step → List Char → Prop
  | .gap piece left, text => text = piece ++ left ∧ GapPiece piece left
  | .token kind word left, text => text = word ++ left ∧ Shape kind word left
  | .unclosed what, text => Open what text

def Ending.written : Ending → List Char
  | .complete gap => gap
  | .unclosed _ gap tail => gap ++ tail

def TokenLine.written (line : TokenLine) : List Char :=
  line.tokens.flatMap Token.written ++ line.ending.written

def TokenLine.push (token : Token) (line : TokenLine) : TokenLine :=
  ⟨token :: line.tokens, line.ending⟩

/-- The tokens of a text with the gaps between them, and how the text ends. -/
inductive Lexes : List Char → TokenLine → Prop
  | complete {gap : List Char} : Gap gap [] → Lexes gap ⟨[], .complete gap⟩
  | unclosed {what : Unclosed} {gap tail : List Char} :
      Gap gap tail → Open what tail → Lexes (gap ++ tail) ⟨[], .unclosed what gap tail⟩
  | token {token : Token} {rest : List Char} {line : TokenLine} :
      Gap token.gap (token.text ++ rest) → Shape token.kind token.text rest → Lexes rest line →
        Lexes (token.written ++ rest) (line.push token)

end TableLineage.Formula
