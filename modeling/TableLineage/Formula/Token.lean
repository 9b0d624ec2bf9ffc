import TableLineage.Text.Letter
import TableLineage.Text.Utf8

/-!
# Tokens of a formula line

Only so much of the formula language is read as is needed to follow quoting
and nesting.  A token keeps the gap before it, a run of blanks and comments,
so that gaps and tokens written one after the other give back the line.  Byte
offsets are not stored: they are the sizes of what stands before.
-/

namespace TableLineage.Formula

open TableLineage.Text

inductive Kind
  | leftParen | rightParen | leftSquare | rightSquare | leftBrace | rightBrace
  | comma | equal | identifier | quotedIdentifier | string | number
  | other
deriving DecidableEq, Repr

structure Token where
  kind : Kind
  gap : List Char
  text : List Char
deriving DecidableEq, Repr

def Token.written (token : Token) : List Char := token.gap ++ token.text

inductive Unclosed
  | literal | comment
deriving DecidableEq, Repr

inductive Ending
  | complete (gap : List Char)
  | unclosed (what : Unclosed) (gap tail : List Char)
deriving DecidableEq, Repr

structure TokenLine where
  tokens : List Token
  ending : Ending
deriving DecidableEq, Repr

/-- The longest start in which every character is accepted in view of the one after it. -/
def spanAhead (accepts : Char → Option Char → Bool) : List Char → List Char × List Char
  | [] => ([], [])
  | c :: rest =>
      if accepts c rest.head? then
        let (taken, left) := spanAhead accepts rest
        (c :: taken, left)
      else ([], c :: rest)

def isGapBlank (c : Char) : Bool := c == ' ' || c == '\t' || c == '\r' || c == '\n'

def inNumber (c : Char) (next : Option Char) : Bool :=
  isAsciiDigit c || (c == '.' && next.any isAsciiDigit)

def inIdentifier (c : Char) (next : Option Char) : Bool :=
  isLetterOrNumeric c || c == '_' || (c == '.' && next.any isLetter)

/-- Reads a literal up to its closing quote; a doubled quote closes nothing. -/
def literal? : List Char → Option (List Char × List Char)
  | [] => none
  | '"' :: '"' :: rest =>
      (literal? rest).map fun (body, left) => ('"' :: '"' :: body, left)
  | c :: rest =>
      if c = '"' then some ([c], rest)
      else (literal? rest).map fun (body, left) => (c :: body, left)

def blockComment? : List Char → Option (List Char × List Char)
  | [] => none
  | '*' :: '/' :: rest => some (['*', '/'], rest)
  | c :: rest => (blockComment? rest).map fun (body, left) => (c :: body, left)

inductive Step
  | gap (text left : List Char)
  | token (kind : Kind) (text left : List Char)
  | unclosed (what : Unclosed)

def literalStep (kind : Kind) (opening : List Char) (rest : List Char) : Step :=
  match literal? rest with
  | some (body, left) => .token kind (opening ++ body) left
  | none => .unclosed .literal

def identifierStep (c : Char) (rest : List Char) : Step :=
  let (name, left) := spanAhead inIdentifier rest
  .token .identifier (c :: name) left

def slashStep : List Char → Step
  | '/' :: rest =>
      let (comment, left) := rest.span (· != '\n')
      .gap ('/' :: '/' :: comment) left
  | '*' :: rest =>
      match blockComment? rest with
      | some (comment, left) => .gap ('/' :: '*' :: comment) left
      | none => .unclosed .comment
  | rest => .token .other ['/'] rest

def hashStep : List Char → Step
  | '"' :: rest => literalStep .quotedIdentifier ['#', '"'] rest
  | rest =>
      if rest.head?.any isLetter then identifierStep '#' rest
      else .token .other ['#'] rest

def equalStep : List Char → Step
  | '>' :: rest => .token .other ['=', '>'] rest
  | rest => .token .equal ['='] rest

def step (c : Char) (rest : List Char) : Step :=
  match c with
  | '(' => .token .leftParen [c] rest
  | ')' => .token .rightParen [c] rest
  | '[' => .token .leftSquare [c] rest
  | ']' => .token .rightSquare [c] rest
  | '\x7b' => .token .leftBrace [c] rest
  | '\x7d' => .token .rightBrace [c] rest
  | ',' => .token .comma [c] rest
  | '=' => equalStep rest
  | '/' => slashStep rest
  | '"' => literalStep .string [c] rest
  | '#' => hashStep rest
  | _ =>
      if isGapBlank c then .gap [c] rest
      else if isAsciiDigit c then
        let (digits, left) := spanAhead inNumber rest
        .token .number (c :: digits) left
      else if isLetter c || c == '_' then identifierStep c rest
      else .token .other [c] rest

/-- `gap` is what was read since the last token.  Every step takes a character, so a budget of
one step per character is enough. -/
def readFrom : Nat → List Char → List Char → TokenLine
  | _, gap, [] => ⟨[], .complete gap⟩
  | 0, gap, text => ⟨[], .complete (gap ++ text)⟩
  | budget + 1, gap, c :: rest =>
      match step c rest with
      | .gap text left => readFrom budget (gap ++ text) left
      | .token kind text left =>
          let after := readFrom budget [] left
          ⟨⟨kind, gap, text⟩ :: after.tokens, after.ending⟩
      | .unclosed what => ⟨[], .unclosed what gap (c :: rest)⟩

def tokenLine (text : List Char) : TokenLine := readFrom text.length [] text

/-! ## Byte offsets -/

structure Located where
  token : Token
  start : Nat
  stop : Nat
deriving DecidableEq, Repr

def locateFrom (offset : Nat) : List Token → List Located
  | [] => []
  | token :: tokens =>
      let start := offset + byteSize token.gap
      let stop := start + byteSize token.text
      ⟨token, start, stop⟩ :: locateFrom stop tokens

def TokenLine.located (line : TokenLine) : List Located := locateFrom 0 line.tokens

def TokenLine.tokenBytes (line : TokenLine) : Nat :=
  byteSize (line.tokens.flatMap Token.written)

/-- The offset of the literal or comment that the line ends inside of. -/
def TokenLine.failure? (line : TokenLine) : Option (Unclosed × Nat) :=
  match line.ending with
  | .complete _ => none
  | .unclosed what gap _ => some (what, line.tokenBytes + byteSize gap)

def Unclosed.name : Unclosed → String
  | .literal => "string"
  | .comment => "comment"

def Unclosed.message (what : Unclosed) (offset : Nat) : String :=
  s!"[offset: {offset}] Scanner error: Found unterminated {what.name}"

end TableLineage.Formula
