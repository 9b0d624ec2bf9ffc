import TableLineage.Sql.Grammar.Query

/-!
# Declarations

Variables and cursors are declared in a form of each dialect's own.
-/

namespace TableLineage.Sql

open Sql.Parser

namespace Declare

def signed (r : Rules) : Parser Mentions := do
  let name ← identifier
  let isCursor ← keyword? "CURSOR"
  require (isCursor || name.value.startsWith "@")
  let type ←
    if isCursor then pure []
    else
      let _ ← keyword? "AS"
      r.wholeType
  if ← keyword? "FOR" then pure (type ++ (← r.query))
  else pure (type ++ (← given (symbol? "=") r.exprMentions))

def defaulted (r : Rules) : Parser Mentions := do
  identifiers
  if ← keyword? "DEFAULT" then r.exprMentions
  else
    let type ← r.wholeType
    pure (type ++ (← afterKeyword "DEFAULT" r.exprMentions))

def cursor (r : Rules) : Parser Mentions := do
  skipIdentifier
  let _ ← keyword? "BINARY"
  let _ ← oneKeyword? ["INSENSITIVE", "ASENSITIVE"]
  let _ ← anyPhrase? [["SCROLL"], ["NO", "SCROLL"]]
  expectKeyword "CURSOR"
  ifNext (oneKeyword? ["WITH", "WITHOUT"]) (expectKeyword "HOLD")
  expectKeyword "FOR"
  r.query

def assigned? (r : Rules) : Parser (Option Mentions) := do
  if ← anyOf [keyword? "DEFAULT", symbol? ":="] then pure (some (← r.exprMentions))
  else pure none

def typedVariable (r : Rules) : Parser Mentions := do
  match ← assigned? r with
  | some value => pure value
  | none =>
      match ← peek with
      | some (.word _) =>
          let type ← r.wholeType
          pure (type ++ (← assigned? r).getD [])
      | _ => pure []

def namedItem (r : Rules) : Parser Mentions := do
  skipIdentifier
  if ← keyword? "CURSOR" then
    expectKeyword "FOR"
    if ← atKeyword "SELECT" then r.query else r.exprMentions
  else if ← keyword? "RESULTSET" then pure ((← assigned? r).getD [])
  else if ← keyword? "EXCEPTION" then given (atSymbol "(") r.exprMentions
  else typedVariable r

def startsItem : List Lexeme → Bool
  | ⟨.symbol ";", _⟩ :: ⟨.word word, _⟩ :: _ =>
      !(Text.uppercaseAscii? word.text.toList).any fun capitals =>
        keywords.contains (String.ofList capitals)
  | _ => false

/-- Declarations that a semicolon ends; the one before another statement stays unread. -/
def items (r : Rules) : Parser Mentions :=
  loop (fun read => do
    let read := read ++ (← namedItem r)
    if startsItem (← ahead) then
      let _ ← next
      pure (read, true)
    else pure (read, false)) []

def parse (r : Rules) : Parser Mentions := do
  match (← dialect).declarationStyle with
  | .variables => listed (signed r)
  | .defaults => defaulted r
  | .items => items r
  | .cursor => cursor r

end Declare

end TableLineage.Sql
