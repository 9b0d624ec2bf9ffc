import TableLineage.Sql.Grammar.TableSource

/-!
# Row patterns

`MATCH_RECOGNIZE` looks in the rows of a table for a pattern over named
symbols.  The pattern mentions nothing, but has to be well formed.
-/

namespace TableLineage.Sql

open Sql.Parser

namespace RowPattern

def number : Parser Unit := quietly (wholeNumberBelow (Number.twoTo 32))

/-- How often an element may occur: bounds in braces, of which the opening one has been read. -/
def bounds : Parser Unit := do
  write (.tight "\x7b")
  if ← symbolAs? .tight "," then number
  else
    number
    ifNext (symbolAs? .tight ",") do
      if ← atSymbol "\x7d" then pure () else number
  expectSymbol "\x7d"

def quantifier? : Parser Bool := do
  match ← ahead with
  | ⟨.symbol text, _⟩ :: rest =>
      if text == "*" || text == "+" then
        resume rest
        write (.closing text)
        pure true
      else if text == "\x7b" then
        resume rest
        bounds
        pure true
      else pure false
  | ⟨.placeholder text, _⟩ :: rest =>
      if text == "?" then
        resume rest
        write (.closing text)
        pure true
      else pure false
  | _ => pure false

def excluded : Parser Unit := do
  writeText "\x7b-"
  require (← unwritten (symbol? "-"))
  skipIdentifier
  require (← unwritten (symbol? "-"))
  require (← unwritten (symbol? "\x7d"))
  writeText "-\x7d"

/-- An element without its quantifiers; `group` reads a pattern in parentheses. -/
def element (group : Parser Unit) : Parser Unit := do
  match ← ahead with
  | ⟨.symbol text, _⟩ :: rest =>
      resume rest
      match text with
      | "^" => writeText text
      | "\x7b" => excluded
      | "(" =>
          writeText "("
          group
          require (← symbolAs? (fun text => { text }) ")")
      | _ => fail
  | ⟨.placeholder text, _⟩ :: rest =>
      resume rest
      require (text == "$")
      writeText text
  | ⟨.word word, _⟩ :: rest =>
      resume rest
      writeIdent word.ident
      if word.quote.isNone && word.text == "PERMUTE" then
        tightParens identifiers
      else pure ()
  | _ => skipIdentifier

/-- Elements one after the other up to a bar or a closing parenthesis. -/
def sequence (group : Parser Unit) : Parser Unit :=
  repeatedly do
    element group
    repeatedly quantifier?
    pure !(← anyOf [atSymbol ")", atSymbol "|"])

/-- Alternatives with bars between them; `budget` bounds how deep they nest. -/
def pattern : Nat → Parser Unit
  | 0 => fail
  | budget + 1 =>
      repeatedly do
        sequence (pattern budget)
        symbol? "|"

def measure (r : Rules) : Parser Mentions := do
  let e ← r.exprMentions
  let _ ← unwritten (keyword? "AS")
  writeText "AS"
  skipIdentifier
  pure e

def rowsPerMatch : Parser Unit := do
  if ← keywords? ["ONE", "ROW", "PER", "MATCH"] then pure ()
  else
    ifNext (keywords? ["ALL", "ROWS", "PER", "MATCH"]) (quietly (anyPhrase?
      [["SHOW", "EMPTY", "MATCHES"], ["OMIT", "EMPTY", "MATCHES"], ["WITH", "UNMATCHED", "ROWS"]]))

def afterMatch : Parser Unit :=
  ifNext (keywords? ["AFTER", "MATCH", "SKIP"]) do
    if ← keywords? ["PAST", "LAST", "ROW"] then pure ()
    else if ← atKeywords ["TO", "NEXT", "ROW"] then
      writeText ""
      expectKeywords ["TO", "NEXT", "ROW"]
    else
      expectPhrase [["TO", "FIRST"], ["TO", "LAST"]]
      skipIdentifier

def definition (r : Rules) : Parser Mentions := do
  skipIdentifier
  expectKeyword "AS"
  r.exprMentions

def recognize (r : Rules) (table : Factor) : Parser Factor := do
  let mentions ← tightParens do
    let partitions ← afterKeywords ["PARTITION", "BY"] r.exprs
    let order ← afterKeywords ["ORDER", "BY"] (orderItems r)
    let measures ← afterKeyword "MEASURES" (mentionsOf (separated (measure r)))
    rowsPerMatch
    afterMatch
    expectKeyword "PATTERN"
    parenthesized (pattern (← env).steps)
    expectKeyword "DEFINE"
    let definitions ← mentionsOf (separated (definition r))
    pure (partitions ++ order ++ measures ++ definitions)
  Factor.named r (table.mentions ++ mentions)

end RowPattern

end TableLineage.Sql
