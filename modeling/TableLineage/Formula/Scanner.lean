import TableLineage.Formula.Listing

/-!
# Scanners

A scanner goes over its text with a cursor and keeps the entries that it has
found.  It can be run again: a run begins at the front and without entries,
whatever an earlier one has left behind.  Behind the end of the text a scanner
sees the character zero, which the text may hold as well.
-/

namespace TableLineage.Formula

open TableLineage.Text

structure Scanner where
  source : List Char
  entries : List Entry
  /-- The number of characters in front of the token that is read. -/
  start : Nat
  /-- The number of characters in front of the cursor. -/
  current : Nat
deriving DecidableEq, Repr

/-- Why a run ends before the end of the text. -/
inductive Stop
  | unclosed (what : Unclosed) (offset : Nat)
  /-- The cursor was to go behind the end. -/
  | outside
deriving DecidableEq, Repr

/-- The message of an error; to go behind the end is none. -/
def Stop.message? : Stop → Option String
  | .unclosed what offset => some (what.message offset)
  | .outside => none

namespace Scanner

/-- What a part of a run comes to; where it stops, the scanner is left as it stands there. -/
abbrev Reached : Type := Except (Stop × Scanner) Scanner

def ofText (source : List Char) : Scanner := ⟨source, [], 0, 0⟩

def isAtEnd (scanner : Scanner) : Bool := scanner.source.length ≤ scanner.current

def peek (scanner : Scanner) (places : Nat) : Char :=
  scanner.source.getD (scanner.current + places) '\x00'

def move (scanner : Scanner) (places : Nat) : Scanner :=
  { scanner with current := scanner.current + places }

def advance (scanner : Scanner) : Reached :=
  if scanner.isAtEnd then .error (.outside, scanner) else .ok (scanner.move 1)

def past? (c : Char) (scanner : Scanner) : Option Scanner :=
  if scanner.peek 0 = c then some (scanner.move 1) else none

def offsetAt (scanner : Scanner) (index : Nat) : Nat := byteSize (scanner.source.take index)

def unclosed (what : Unclosed) (scanner : Scanner) : Reached :=
  .error (.unclosed what (scanner.offsetAt scanner.start), scanner)

def addEntry (kind : Kind) (scanner : Scanner) : Reached :=
  if scanner.start ≤ scanner.current ∧ scanner.current ≤ scanner.source.length then
    let text := (scanner.source.take scanner.current).drop scanner.start
    let entry : Entry :=
      ⟨some kind, text, scanner.offsetAt scanner.start, scanner.offsetAt scanner.current⟩
    .ok { scanner with entries := scanner.entries ++ [entry] }
  else .error (.outside, scanner)

def passWhile (accepts : Char → Char → Bool) : Nat → Scanner → Reached
  | 0, scanner => .ok scanner
  | budget + 1, scanner =>
      if accepts (scanner.peek 0) (scanner.peek 1) then do
        passWhile accepts budget (← scanner.advance)
      else .ok scanner

def passLine : Nat → Scanner → Reached
  | 0, scanner => .ok scanner
  | budget + 1, scanner =>
      if scanner.isAtEnd || scanner.peek 0 == '\n' then .ok scanner
      else do passLine budget (← scanner.advance)

def closeComment : Nat → Scanner → Reached
  | 0, scanner => scanner.unclosed .comment
  | budget + 1, scanner =>
      if scanner.isAtEnd then scanner.unclosed .comment
      else if scanner.peek 0 == '*' && scanner.peek 1 == '/' then do
        (← scanner.advance).advance
      else do closeComment budget (← scanner.advance)

def closeLiteral : Nat → Scanner → Reached
  | 0, scanner => scanner.unclosed .literal
  | budget + 1, scanner =>
      if scanner.isAtEnd then scanner.unclosed .literal
      else
        match scanner.past? '"' with
        | none => do closeLiteral budget (← scanner.advance)
        | some behind =>
            match behind.past? '"' with
            | none => .ok behind
            | some behind => closeLiteral budget behind

def addLiteral (kind : Kind) (scanner : Scanner) : Reached := do
  (← closeLiteral scanner.source.length scanner).addEntry kind

def addNumber (scanner : Scanner) : Reached := do
  let digits := passWhile (fun c next => inNumber c (some next)) scanner.source.length
  (← digits scanner).addEntry .number

def addIdentifier (scanner : Scanner) : Reached := do
  let name := passWhile (fun c next => inIdentifier c (some next)) scanner.source.length
  (← name scanner).addEntry .identifier

def addEqual (scanner : Scanner) : Reached :=
  match scanner.past? '>' with
  | some behind => behind.addEntry .other
  | none => scanner.addEntry .equal

def passComment (scanner : Scanner) : Reached :=
  match scanner.past? '/' with
  | some behind => passLine scanner.source.length behind
  | none =>
      match scanner.past? '*' with
      | some behind => closeComment scanner.source.length behind
      | none => scanner.addEntry .other

def addHash (scanner : Scanner) : Reached :=
  match scanner.past? '"' with
  | some behind => behind.addLiteral .quotedIdentifier
  | none => if isLetter (scanner.peek 0) then scanner.addIdentifier else scanner.addEntry .other

/-- Goes past a token, which is added to the entries, or past a blank or a comment. -/
def scanToken (scanner : Scanner) : Reached := do
  let c := scanner.peek 0
  let scanner ← scanner.advance
  match c with
  | '(' => scanner.addEntry .leftParen
  | ')' => scanner.addEntry .rightParen
  | '[' => scanner.addEntry .leftSquare
  | ']' => scanner.addEntry .rightSquare
  | '\x7b' => scanner.addEntry .leftBrace
  | '\x7d' => scanner.addEntry .rightBrace
  | ',' => scanner.addEntry .comma
  | '=' => scanner.addEqual
  | '/' => scanner.passComment
  | '"' => scanner.addLiteral .string
  | '#' => scanner.addHash
  | _ =>
      if isGapBlank c then .ok scanner
      else if isAsciiDigit c then scanner.addNumber
      else if isLetter c || c == '_' then scanner.addIdentifier
      else scanner.addEntry .other

/-! ## Runs -/

def scanFrom : Nat → Scanner → Reached
  | 0, scanner => .ok scanner
  | budget + 1, scanner =>
      if scanner.isAtEnd then .ok scanner
      else do scanFrom budget (← scanToken { scanner with start := scanner.current })

def reset (scanner : Scanner) : Scanner := { scanner with entries := [], start := 0, current := 0 }

/-- A run over the whole text: why it stopped, if it did, and the scanner after it. -/
def scan (scanner : Scanner) : Option Stop × Scanner :=
  match scanFrom scanner.source.length scanner.reset with
  | .ok scanner =>
      let mark := Entry.endMark (byteSize scanner.source)
      (none, { scanner with entries := scanner.entries ++ [mark] })
  | .error (stop, scanner) => (some stop, scanner)

end Scanner

end TableLineage.Formula
