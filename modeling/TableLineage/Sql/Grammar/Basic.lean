import TableLineage.Sql.Dialect
import TableLineage.Sql.Wording

/-!
# Parsers over lexemes

A parser reads the lexemes ahead under an environment that fixes the dialect
and counts how many nested productions may still be opened.  Running out of
that count is a failure of its own: alternatives that recover from a mismatch
do not recover from it.  Nothing recovers from a breakdown.

While it reads, a parser words what it has read.  Keywords and symbols are
worded as they are read; `next` and `resume` word nothing.
-/

namespace TableLineage.Sql

inductive Failure (d : Dialect)
  | mismatch
  | tooDeep
  /-- There is no answer at all, which can only happen behind the operator `DIV`. -/
  | breakdown (divides : d.divOperator = true)
deriving DecidableEq, Repr

/-- What an expression is part of, where that changes its reading. -/
inductive Surroundings
  | plain
  /-- Here `PRIOR` is an operator. -/
  | connectBy
  /-- Here `NOT NULL` and `COLLATE` belong to the column that is defined. -/
  | column
deriving DecidableEq, Repr

structure Env where
  dialect : Dialect
  depth : Nat
  /-- More than there are lexemes ahead. -/
  steps : Nat
  surroundings : Surroundings

/-- The lexemes ahead, and the wording of those that have been read. -/
structure Reading where
  ahead : List Lexeme
  written : Wording := []

def Parser (α : Type) : Type :=
  (env : Env) → Reading → Except (Failure env.dialect) (α × Reading)

namespace Parser

protected def pure (a : α) : Parser α := fun _ reading => .ok (a, reading)

protected def bind (p : Parser α) (f : α → Parser β) : Parser β := fun env reading =>
  match p env reading with
  | .ok (a, reading) => f a env reading
  | .error failure => .error failure

instance : Monad Parser where
  pure := Parser.pure
  bind := Parser.bind

def fail : Parser α := fun _ _ => .error .mismatch

instance : Inhabited (Parser α) := ⟨fail⟩

def env : Parser Env := fun env reading => .ok (env, reading)

def dialect : Parser Dialect := fun env reading => .ok (env.dialect, reading)

def has (feature : Dialect → Bool) : Parser Bool := fun env reading =>
  .ok (feature env.dialect, reading)

/-- Tries `p` under a condition; no lexeme is read when it does not hold. -/
def onlyIf (condition : Bool) (p : Parser Bool) : Parser Bool :=
  if condition then p else pure false

def within (surroundings : Surroundings) (p : Parser α) : Parser α := fun env reading =>
  p { env with surroundings } reading

def quietly (p : Parser α) : Parser Unit := do
  let _ ← p
  pure ()

def silently (p : Parser α) : Parser Mentions := do
  let _ ← p
  pure []

def given (test : Parser Bool) (p : Parser Mentions) : Parser Mentions := do
  if ← test then p else pure []

def ifNext (test : Parser Bool) (p : Parser Unit) : Parser Unit := do
  if ← test then p else pure ()

def anyOf : List (Parser Bool) → Parser Bool
  | [] => pure false
  | test :: tests => do
      if ← test then pure true else anyOf tests

def require (condition : Bool) : Parser Unit := if condition then pure () else fail

def nested (p : Parser α) : Parser α := fun env reading =>
  match env.depth with
  | 0 => .error .tooDeep
  | depth + 1 => p { env with depth } reading

def attempt (p : Parser α) : Parser (Option α) := fun env reading =>
  match p env reading with
  | .ok (a, left) => .ok (some a, left)
  | .error .mismatch => .ok (none, reading)
  | .error failure => .error failure

/-- Tries another parser in place of one that fails without breaking down.  Where both fail, the
failure of the first one stands. -/
def otherwise (p other : Parser α) : Parser α := fun env reading =>
  match p env reading with
  | .ok read => .ok read
  | .error (.breakdown divides) => .error (.breakdown divides)
  | .error failure =>
      match other env reading with
      | .ok read => .ok read
      | .error (.breakdown divides) => .error (.breakdown divides)
      | .error _ => .error failure

/-- Runs a parser behind `DIV`, where the dialect has this operator; it breaks down where the
parser fails. -/
def divided (p : Parser α) : Parser α := fun env reading =>
  if divides : env.dialect.divOperator = true then
    (p env reading).mapError fun _ => .breakdown divides
  else .error .mismatch

def write (piece : Piece) : Parser Unit := fun _ reading =>
  .ok ((), { reading with written := piece :: reading.written })

def writeText (text : String) : Parser Unit := write { text }

def writeIdent (ident : Ident) : Parser Unit := writeText ident.wording

def writeSymbol (text : String) : Parser Unit := write (.ofSymbol text)

def writeAll (wording : Wording) : Parser Unit := fun _ reading =>
  .ok ((), { reading with written := wording ++ reading.written })

def unwritten (p : Parser α) : Parser α := fun env reading =>
  match p env reading with
  | .ok (a, left) => .ok (a, { left with written := reading.written })
  | .error failure => .error failure

/-- Runs a parser and gives the wording of what it read, which is not written yet. -/
def apart (p : Parser α) : Parser (α × Wording) := fun env reading =>
  match p env { reading with written := [] } with
  | .ok (a, left) => .ok ((a, left.written), { left with written := reading.written })
  | .error failure => .error failure

def headToken (ahead : List Lexeme) : Option Token := ahead.head?.map (·.token)

def ahead : Parser (List Lexeme) := fun _ reading => .ok (reading.ahead, reading)

def resume (left : List Lexeme) : Parser Unit := fun _ reading =>
  .ok ((), { reading with ahead := left })

def stepBack (before : List Lexeme) : Parser Unit := fun _ reading =>
  .ok ((), { reading with ahead := before.drop (before.length - reading.ahead.length - 1) })

def peek : Parser (Option Token) := fun _ reading => .ok (headToken reading.ahead, reading)

def peekAt (n : Nat) : Parser (Option Token) := fun _ reading =>
  .ok (reading.ahead[n]?.map (·.token), reading)

def next : Parser (Option Token) := fun _ reading =>
  match reading.ahead with
  | [] => .ok (none, reading)
  | lexeme :: left => .ok (some lexeme.token, { reading with ahead := left })

def isKeyword (keyword : String) : Option Token → Bool
  | some (.word word) => word.keyword == keyword
  | _ => false

def isSymbol (text : String) : Option Token → Bool
  | some (.symbol text') => text' == text
  | _ => false

def atKeyword (keyword : String) : Parser Bool := fun _ reading =>
  .ok (isKeyword keyword (headToken reading.ahead), reading)

def atSymbol (text : String) : Parser Bool := fun _ reading =>
  .ok (isSymbol text (headToken reading.ahead), reading)

def atAnyKeyword (keywords : List String) : Parser Bool := fun _ reading =>
  .ok (keywords.any fun keyword => isKeyword keyword (headToken reading.ahead), reading)

def anyKeyword? (keywords : List String) : Parser (Option String) := do
  match ← ahead with
  | ⟨.word word, _⟩ :: left =>
      if keywords.contains word.keyword then
        resume left
        writeText word.keyword
        pure (some word.keyword)
      else pure none
  | _ => pure none

def oneKeyword? (keywords : List String) : Parser Bool := do
  pure (← anyKeyword? keywords).isSome

def keyword? (keyword : String) : Parser Bool := do
  match ← ahead with
  | ⟨.word word, _⟩ :: left =>
      if word.keyword == keyword then
        resume left
        writeText keyword
        pure true
      else pure false
  | _ => pure false

def startWithKeywords : List String → List Lexeme → Option (List Lexeme)
  | [], ahead => some ahead
  | keyword :: keywords, ⟨.word word, _⟩ :: left =>
      if word.keyword == keyword then startWithKeywords keywords left else none
  | _ :: _, _ => none

def keywords? (keywords : List String) : Parser Bool := do
  match startWithKeywords keywords (← ahead) with
  | some left =>
      resume left
      keywords.forM writeText
      pure true
  | none => pure false

def atKeywords (keywords : List String) : Parser Bool := fun _ reading =>
  .ok ((startWithKeywords keywords reading.ahead).isSome, reading)

def expectKeyword (keyword : String) : Parser Unit := do
  if ← keyword? keyword then pure () else fail

def expectKeywords : List String → Parser Unit
  | [] => pure ()
  | keyword :: keywords => do
      expectKeyword keyword
      expectKeywords keywords

def expectAnyKeyword (keywords : List String) : Parser String := do
  match ← anyKeyword? keywords with
  | some keyword => pure keyword
  | none => fail

def symbol? (text : String) : Parser Bool := do
  match ← ahead with
  | ⟨.symbol text', _⟩ :: left =>
      if text' == text then
        resume left
        writeSymbol text
        pure true
      else pure false
  | _ => pure false

def startWithSymbols : List String → List Lexeme → Option (List Lexeme)
  | [], ahead => some ahead
  | text :: texts, ⟨.symbol text', _⟩ :: left =>
      if text' == text then startWithSymbols texts left else none
  | _ :: _, _ => none

def symbolAs? (piece : String → Piece) (text : String) : Parser Bool := do
  if ← unwritten (symbol? text) then
    write (piece text)
    pure true
  else pure false

def symbols? (texts : List String) : Parser Bool := do
  match startWithSymbols texts (← ahead) with
  | some left =>
      resume left
      writeText (String.join texts)
      pure true
  | none => pure false

def expectSymbol (text : String) : Parser Unit := do
  if ← symbol? text then pure () else fail

def writeEnclosed (inParens : Bool) (wording : Wording) : Parser Unit := do
  if inParens then writeSymbol "(" else pure ()
  writeAll wording
  if inParens then writeSymbol ")" else pure ()

/-- Reads words in any dialect, and tells whether they mean something in this one; words without
a meaning are not written. -/
def meant (meaningful : Bool) (words : Parser Bool) : Parser Bool := do
  let (found, wording) ← apart words
  if found && meaningful then
    writeAll wording
    pure true
  else pure false

/-! ## Repetition -/

/-- Repeats a step that tells whether to go on; a step that goes on has read a lexeme. -/
def loopFor (step : σ → Parser (σ × Bool)) : Nat → σ → Parser σ
  | 0, _ => fail
  | budget + 1, state => do
      let (state, more) ← step state
      if more then loopFor step budget state else pure state

def loop (step : σ → Parser (σ × Bool)) (state : σ) : Parser σ := do
  loopFor step (← env).steps state

/-- Items with commas between them; `ends` tells, after a comma, that no item follows.  Such a
comma is not written. -/
def separatedUntil (ends : Parser Bool) (item : Parser α) : Parser (List α) := do
  let items ← loop (fun items => do
    let a ← item
    let items := a :: items
    if ← unwritten (symbol? ",") then
      if ← ends then pure (items, false)
      else
        writeSymbol ","
        pure (items, true)
    else pure (items, false)) []
  pure items.reverse

def separated (item : Parser α) : Parser (List α) := separatedUntil (pure false) item

def separatedOrNone (close : Parser Bool) (item : Parser α) : Parser (List α) := do
  if ← close then pure [] else separated item

def mentionsOf (items : Parser (List Mentions)) : Parser Mentions := do
  pure (← items).flatten

/-- What the items of a list with commas mention. -/
def listed (item : Parser Mentions) : Parser Mentions := mentionsOf (separated item)

def repeated (step : Parser (Option Mentions)) : Parser Mentions :=
  loop (fun read => do
    match ← step with
    | some mentions => pure (read ++ mentions, true)
    | none => pure (read, false)) []

def repeatedly (step : Parser Bool) : Parser Unit :=
  loop (fun _ => do pure ((), ← step)) ()

/-- The first of several parsers that reads something, by its place, with its wording. -/
def firstRead? : List (Nat × Parser Bool) → Parser (Option (Nat × Wording))
  | [] => pure none
  | (place, p) :: others => do
      let (found, wording) ← apart p
      if found then pure (some (place, wording)) else firstRead? others

/-- Reads parts in any order, each of them at most once, and writes them in the order given. -/
def eachOnce (parts : List (Parser Bool)) : Parser Unit := do
  let places := (List.range parts.length).zip parts
  let read ← loop (fun read => do
    match ← firstRead? (places.filter fun part => (read.lookup part.1).isNone) with
    | some part => pure (part :: read, true)
    | none => pure (read, false)) []
  places.forM fun part => writeAll ((read.lookup part.1).getD [])

def afterKeyword (keyword : String) (p : Parser Mentions) : Parser Mentions :=
  given (keyword? keyword) p

def afterKeywords (keywords : List String) (p : Parser Mentions) : Parser Mentions :=
  given (keywords? keywords) p

def anyPhrase? (phrases : List (List String)) : Parser Bool := anyOf (phrases.map keywords?)

def expectPhrase (phrases : List (List String)) : Parser Unit := do
  require (← anyPhrase? phrases)

def parenthesized (p : Parser α) : Parser α := do
  expectSymbol "("
  let a ← p
  expectSymbol ")"
  pure a

def tightParens (p : Parser α) : Parser α := do
  write .joint
  parenthesized p

end Parser

end TableLineage.Sql
