import TableLineage.Sql.Grammar.Setting

/-!
# Sessions

Transactions, cursors, prepared statements and calls of procedures.
-/

namespace TableLineage.Sql

open Sql.Parser

namespace Transaction

def start : Parser Unit := do
  let _ ← onlyIf (← has Dialect.transactionModifier)
    (oneKeyword? ["DEFERRED", "IMMEDIATE", "EXCLUSIVE", "TRY", "CATCH"])
  let _ ← anyKeyword? ["TRANSACTION", "WORK", "TRAN"]
  modes

def chain : Parser Unit := do
  let _ ← anyKeyword? ["TRANSACTION", "WORK", "TRAN"]
  ifNext (keyword? "AND") do
    let _ ← keyword? "NO"
    expectKeyword "CHAIN"

def rollback : Parser Unit := do
  chain
  ifNext (keyword? "TO") do
    let _ ← keyword? "SAVEPOINT"
    skipIdentifier

def finish : Parser Unit := do
  let _ ← onlyIf (← has Dialect.endModifier) (oneKeyword? ["TRY", "CATCH"])
  chain

def release : Parser Unit := do
  let _ ← keyword? "SAVEPOINT"
  skipIdentifier

end Transaction

namespace Cursor

def direction : Parser Unit := do
  match ← anyKeyword? ["NEXT", "PRIOR", "FIRST", "LAST", "ABSOLUTE", "RELATIVE", "FORWARD",
      "BACKWARD", "ALL"] with
  | some "ABSOLUTE" | some "RELATIVE" => numberValue
  | some "FORWARD" | some "BACKWARD" => if ← keyword? "ALL" then pure () else numberValue
  | some _ => pure ()
  | none => numberValue

def fetch (r : Rules) : Parser Unit := do
  direction
  let _ ← expectAnyKeyword ["FROM", "IN"]
  skipIdentifier
  ifNext (keyword? "INTO") (anyName r)

end Cursor

namespace Session

def prepare (r : Rules) : Parser Mentions := do
  skipIdentifier
  let types ← given (atSymbol "(") (parenthesized (listed r.wholeType))
  expectKeyword "AS"
  pure (types ++ (← r.statement))

def deallocate : Parser Unit := do
  let _ ← keyword? "PREPARE"
  skipIdentifier

def call (r : Rules) : Parser Mentions := do
  anyName r
  given (atSymbol "(") do pure (← Sql.call r).mentions

def lacksParameters : Parser Bool := do
  match ← peek with
  | none => pure true
  | some (.word word) => pure (["USING", "OUTPUT", "DEFAULT"].contains word.keyword)
  | some token => pure (token == .symbol ";")

def executed (r : Rules) : Parser Unit := do
  let immediate ← onlyIf (← has Dialect.executeImmediate) (keyword? "IMMEDIATE")
  if ← anyOf [pure immediate, atSymbol "("] then pure () else anyName r

def execute (r : Rules) : Parser Mentions := do
  executed r
  let parameters ←
    if ← atSymbol "(" then
      parenthesized (mentionsOf (separatedOrNone (atSymbol ")") r.exprMentions))
    else mentionsOf (separatedOrNone lacksParameters r.exprMentions)
  ifNext (keyword? "INTO") identifiers
  let inputs ← afterKeyword "USING" (listed (Factor.exprWithAlias r))
  let _ ← keyword? "OUTPUT"
  let _ ← keyword? "DEFAULT"
  pure (parameters ++ inputs)

end Session

end TableLineage.Sql
