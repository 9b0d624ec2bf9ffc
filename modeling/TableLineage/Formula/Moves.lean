import TableLineage.Formula.Scanner

/-!
# A run in single moves

In the middle of a run a scanner is about to do one of few things: to look for
a further token, to go round a loop once more, to take a character, to add an
entry.  This is its phase, and a moment is a phase with the scanner as it stands
then.  `Moment.next?` is what the scanner does in a moment, one move at a time
and without a budget.
-/

namespace TableLineage.Formula

open TableLineage.Text

inductive Phase
  /-- To look whether there is a further token. -/
  | between
  | token
  /-- Behind the sign of that name. -/
  | equal | slash | hash
  /-- Behind a slash that begins no line comment. -/
  | star
  /-- Behind a hash sign that begins no literal. -/
  | letter
  | literal (kind : Kind)
  /-- Behind a quote that closes the literal unless another one follows. -/
  | closing (kind : Kind)
  | line | comment | number | identifier
  /-- To take a character. -/
  | advance (after : Phase)
  | add (kind : Kind)
  | finished
  | stopped (stop : Stop)
deriving DecidableEq, Repr

def Phase.ofFirst (c : Char) : Phase :=
  match c with
  | '(' => .add .leftParen
  | ')' => .add .rightParen
  | '[' => .add .leftSquare
  | ']' => .add .rightSquare
  | '\x7b' => .add .leftBrace
  | '\x7d' => .add .rightBrace
  | ',' => .add .comma
  | '=' => .equal
  | '/' => .slash
  | '"' => .literal .string
  | '#' => .hash
  | _ =>
      if isGapBlank c then .between
      else if isAsciiDigit c then .number
      else if isLetter c || c == '_' then .identifier
      else .add .other

structure Moment where
  phase : Phase
  scanner : Scanner
deriving DecidableEq, Repr

namespace Moment

def ofReached (after : Phase) : Scanner.Reached → Moment
  | .ok scanner => ⟨after, scanner⟩
  | .error (stop, scanner) => ⟨.stopped stop, scanner⟩

def branch (c : Char) (past ahead : Phase) (scanner : Scanner) : Moment :=
  match scanner.past? c with
  | some behind => ⟨past, behind⟩
  | none => ⟨ahead, scanner⟩

/-- Once round the loop that goes on as long as the next two characters are accepted. -/
def passWord (accepts : Char → Option Char → Bool) (loop : Phase) (kind : Kind)
    (scanner : Scanner) : Moment :=
  if accepts (scanner.peek 0) (some (scanner.peek 1)) then ⟨.advance loop, scanner⟩
  else ⟨.add kind, scanner⟩

/-- What the scanner does; there is nothing to do at the end of a run. -/
def next? : Moment → Option Moment
  | ⟨.between, scanner⟩ =>
      if scanner.isAtEnd then
        let mark := Entry.endMark (byteSize scanner.source)
        some ⟨.finished, { scanner with entries := scanner.entries ++ [mark] }⟩
      else some ⟨.token, { scanner with start := scanner.current }⟩
  | ⟨.token, scanner⟩ => some ⟨.advance (.ofFirst (scanner.peek 0)), scanner⟩
  | ⟨.equal, scanner⟩ => some (branch '>' (.add .other) (.add .equal) scanner)
  | ⟨.slash, scanner⟩ => some (branch '/' .line .star scanner)
  | ⟨.star, scanner⟩ => some (branch '*' .comment (.add .other) scanner)
  | ⟨.hash, scanner⟩ => some (branch '"' (.literal .quotedIdentifier) .letter scanner)
  | ⟨.letter, scanner⟩ =>
      if isLetter (scanner.peek 0) then some ⟨.identifier, scanner⟩
      else some ⟨.add .other, scanner⟩
  | ⟨.literal kind, scanner⟩ =>
      if scanner.isAtEnd then some (ofReached (.add kind) (scanner.unclosed .literal))
      else some (branch '"' (.closing kind) (.advance (.literal kind)) scanner)
  | ⟨.closing kind, scanner⟩ => some (branch '"' (.literal kind) (.add kind) scanner)
  | ⟨.line, scanner⟩ =>
      if scanner.isAtEnd || scanner.peek 0 == '\n' then some ⟨.between, scanner⟩
      else some ⟨.advance .line, scanner⟩
  | ⟨.comment, scanner⟩ =>
      if scanner.isAtEnd then some (ofReached .between (scanner.unclosed .comment))
      else if scanner.peek 0 == '*' && scanner.peek 1 == '/' then
        some ⟨.advance (.advance .between), scanner⟩
      else some ⟨.advance .comment, scanner⟩
  | ⟨.number, scanner⟩ => some (passWord inNumber .number .number scanner)
  | ⟨.identifier, scanner⟩ => some (passWord inIdentifier .identifier .identifier scanner)
  | ⟨.advance after, scanner⟩ => some (ofReached after scanner.advance)
  | ⟨.add kind, scanner⟩ => some (ofReached .between (scanner.addEntry kind))
  | ⟨.finished, _⟩ => none
  | ⟨.stopped _, _⟩ => none

def outcome? : Moment → Option (Option Stop × Scanner)
  | ⟨.finished, scanner⟩ => some (none, scanner)
  | ⟨.stopped stop, scanner⟩ => some (some stop, scanner)
  | _ => none

/-- From one moment to another in that many moves. -/
inductive Runs : Moment → Nat → Moment → Prop
  | refl (moment : Moment) : Runs moment 0 moment
  | next {first second last : Moment} {moves : Nat} :
      first.next? = some second → Runs second moves last → Runs first (moves + 1) last

end Moment

/-- The moment is one of a run, which begins at the front whatever an earlier run has left. -/
def Scanner.Passes (scanner : Scanner) (moment : Moment) : Prop :=
  ∃ moves, Moment.Runs ⟨.between, scanner.reset⟩ moves moment

end TableLineage.Formula
