import TableLineage.Formula.Span

/-!
# Character by character

A text can be followed without tokens: all that matters of what was read is
whether it ends in code, in a literal or in a comment.  The character ahead is
looked at where two of them form one mark.
-/

namespace TableLineage.Formula

open TableLineage.Text

inductive Mode
  | code | literal | lineComment | blockComment
deriving DecidableEq, Repr

structure Reading where
  mode : Mode
  /-- The next character is the second one of a mark and has no meaning of its own. -/
  completing : Bool
deriving DecidableEq, Repr

namespace Reading

def start : Reading := ⟨.code, false⟩

def inCode (reading : Reading) : Bool := reading.mode = .code && !reading.completing

def next (reading : Reading) (c : Char) (ahead : Option Char) : Reading :=
  if reading.completing then ⟨reading.mode, false⟩
  else
    match reading.mode with
    | .code =>
        if c = '"' then ⟨.literal, false⟩
        else if c = '/' ∧ ahead = some '/' then ⟨.lineComment, true⟩
        else if c = '/' ∧ ahead = some '*' then ⟨.blockComment, true⟩
        else ⟨.code, false⟩
    | .literal =>
        if c = '"' then
          if ahead = some '"' then ⟨.literal, true⟩ else ⟨.code, false⟩
        else ⟨.literal, false⟩
    | .lineComment => if c = '\n' then ⟨.code, false⟩ else ⟨.lineComment, false⟩
    | .blockComment =>
        if c = '*' ∧ ahead = some '/' then ⟨.code, true⟩ else ⟨.blockComment, false⟩

/-- The reading behind a word that stands in front of `rest`. -/
def after (reading : Reading) (rest : List Char) : List Char → Reading
  | [] => reading
  | c :: word => (reading.next c (word ++ rest).head?).after rest word

end Reading

def opensGroup (c : Char) : Bool := c == '(' || c == '[' || c == '\x7b'

def closesGroup (c : Char) : Bool := c == ')' || c == ']' || c == '\x7d'

/-- Cuts a text at its commas in one pass.  The argument being read begins at `start`, the text
that is left at `offset`. -/
def passSpans (reading : Reading) (depth start offset : Nat) : List Char → List Span
  | [] => [⟨start, offset⟩]
  | c :: rest =>
      let after := reading.next c rest.head?
      let behind := offset + c.utf8Size
      if reading.inCode then
        if opensGroup c then passSpans after (depth + 1) start behind rest
        else if closesGroup c then
          if depth = 1 then [⟨start, offset⟩] else passSpans after (depth - 1) start behind rest
        else if c = ',' ∧ depth = 1 then
          ⟨start, offset⟩ :: passSpans after depth behind behind rest
        else passSpans after depth start behind rest
      else passSpans after depth start behind rest

/-- The spans of the arguments behind the first parenthesis. -/
def characterSpans (text : List Char) : List Span :=
  match splitOnce '(' text with
  | none => []
  | some (before, inside) =>
      let start := byteSize before + 1
      passSpans .start 1 start start inside

end TableLineage.Formula
