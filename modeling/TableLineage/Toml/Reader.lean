import TableLineage.Toml.Complaint

/-!
# Readers of TOML text

A reader either misses, so that another one may be tried at the same place, or
fails for good.  Both leave behind the place that the complaint is about, which
need not be where the reader began.
-/

namespace TableLineage.Toml

inductive Outcome (α : Type)
  | ok (value : α) (ahead : List Char)
  | missed (complaint : Complaint) (ahead : List Char)
  | failed (complaint : Complaint) (ahead : List Char)

def Reader (α : Type) : Type := List Char → Outcome α

namespace Reader

instance : Monad Reader where
  pure a := fun ahead => .ok a ahead
  bind p f := fun ahead =>
    match p ahead with
    | .ok a ahead => f a ahead
    | .missed complaint ahead => .missed complaint ahead
    | .failed complaint ahead => .failed complaint ahead

def miss : Reader α := fun ahead => .missed .none ahead

def insist (p : Reader α) : Reader α := fun ahead =>
  match p ahead with
  | .missed complaint ahead => .failed complaint ahead
  | outcome => outcome

def complaining (change : Complaint → Complaint) (p : Reader α) : Reader α := fun ahead =>
  match p ahead with
  | .ok a ahead => .ok a ahead
  | .missed complaint ahead => .missed (change complaint) ahead
  | .failed complaint ahead => .failed (change complaint) ahead

def naming (label : String) (p : Reader α) : Reader α := complaining (.named label) p

def expecting (texts : List String) (p : Reader α) : Reader α :=
  complaining (fun complaint => texts.foldl (fun complaint text => complaint.expecting text)
    complaint) p

def orElse (p q : Reader α) : Reader α := fun ahead =>
  match p ahead with
  | .missed _ _ => q ahead
  | outcome => outcome

def option (p : Reader α) : Reader (Option α) :=
  orElse (do pure (some (← p))) (pure none)

/-- Puts what was read to a test; where it does not pass, the complaint is about its start. -/
def checked (test : α → Except Complaint β) (p : Reader α) : Reader β := fun start =>
  match p start with
  | .ok a ahead =>
      match test a with
      | .ok b => .ok b ahead
      | .error complaint => .missed complaint start
  | .missed complaint ahead => .missed complaint ahead
  | .failed complaint ahead => .failed complaint ahead

def causing (test : α → Except Cause β) (p : Reader α) : Reader β :=
  checked (fun a => (test a).mapError .ofCause) p

def left : Reader Nat := fun ahead => .ok ahead.length ahead

def peek : Reader (Option Char) := fun ahead => .ok ahead.head? ahead

def satisfy (accepts : Char → Bool) : Reader Char := fun ahead =>
  match ahead with
  | c :: rest => if accepts c then .ok c rest else .missed .none ahead
  | [] => .missed .none ahead

def char (c : Char) : Reader Char := satisfy (· == c)

def literal (text : List Char) : Reader Unit := fun ahead =>
  if text.isPrefixOf ahead then .ok () (ahead.drop text.length) else .missed .none ahead

def takeWhile (accepts : Char → Bool) : Reader (List Char) := fun ahead =>
  .ok (ahead.takeWhile accepts) (ahead.dropWhile accepts)

def takeSome (accepts : Char → Bool) : Reader (List Char) := do
  let first ← satisfy accepts
  let others ← takeWhile accepts
  pure (first :: others)

def takeBetween (least most : Nat) (accepts : Char → Bool) : Reader (List Char) := fun ahead =>
  let taken := (ahead.take most).takeWhile accepts
  if taken.length < least then .missed .none ahead else .ok taken (ahead.drop taken.length)

def taken (p : Reader α) : Reader (List Char) := fun start =>
  match p start with
  | .ok _ ahead => .ok (start.take (start.length - ahead.length)) ahead
  | .missed complaint ahead => .missed complaint ahead
  | .failed complaint ahead => .failed complaint ahead

def manyFor (p : Reader α) : Nat → Reader (List α)
  | 0 => pure []
  | budget + 1 => do
      match ← option p with
      | some a => do
          let others ← manyFor p budget
          pure (a :: others)
      | none => pure []

def many (p : Reader α) : Reader (List α) := do
  manyFor p (← left)

/-- One or more items between separators.  A separator without an item behind it is not
taken. -/
def separated (item : Reader α) (separator : Reader β) : Reader (List α) := do
  let first ← item
  let others ← many do
    let _ ← separator
    item
  pure (first :: others)

/-! ## Characters of TOML -/

def isBlank (c : Char) : Bool := c == ' ' || c == '\t'

def isWide (c : Char) : Bool := 128 ≤ c.toNat

def isShown (c : Char) : Bool := c == '\t' || (32 ≤ c.toNat && c.toNat ≤ 126) || isWide c

def isDigit (c : Char) : Bool := '0' ≤ c && c ≤ '9'

def isHexDigit (c : Char) : Bool :=
  isDigit c || ('a' ≤ c && c ≤ 'f') || ('A' ≤ c && c ≤ 'F')

def blanks : Reader Unit := do
  let _ ← takeWhile isBlank

def lineFeed : Reader Unit := literal ['\n']

def returnFeed : Reader Unit := do
  let _ ← char '\r'
  insist lineFeed

def newline : Reader Unit := orElse lineFeed returnFeed

def atEnd : Reader Unit := fun ahead =>
  if ahead.isEmpty then .ok () ahead else .missed .none ahead

def lineEnd : Reader Unit := orElse newline atEnd

def comment : Reader Unit := do
  let _ ← char '#'
  let _ ← takeWhile isShown

def trailing : Reader Unit := insist <| expecting ["newline", "`#`"] do
  blanks
  let _ ← option comment
  lineEnd

def gapFor : Nat → Reader Unit
  | 0 => blanks
  | budget + 1 => do
      blanks
      match ← peek with
      | some '#' =>
          comment
          newline
          gapFor budget
      | some '\n' | some '\r' =>
          newline
          gapFor budget
      | _ => pure ()

/-- Blanks and line breaks, the latter with or without a comment in front. -/
def gap : Reader Unit := do
  gapFor (← left)

end Reader

end TableLineage.Toml
