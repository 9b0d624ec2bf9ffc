import TableLineage.Sql.Grammar.Change

/-!
# Blocks and branches

Statements that hold statements.  In a block each statement ends in a
semicolon; only where branches stay open may a semicolon be left out.
-/

namespace TableLineage.Sql

open Sql.Parser

namespace Block

def statementsUntil (r : Rules) (ends : List String) : Parser Mentions :=
  repeated do
    match ← peek with
    | none => pure none
    | some _ =>
        if ← atAnyKeyword ends then pure none
        else
          let statement ← r.statement
          expectSymbol ";"
          pure (some statement)

def body (r : Rules) (ends : List String) : Parser Mentions := do
  if ← keyword? "BEGIN" then
    let statements ← statementsUntil r ends
    expectKeyword "END"
    pure statements
  else statementsUntil r ends

def branch (r : Rules) (ends : List String) : Parser Mentions := do
  let guard ← r.exprMentions
  expectKeyword "THEN"
  pure (guard ++ (← body r ends))

def branches (r : Rules) (keyword : String) (ends : List String) : Parser Mentions :=
  loop (fun read => do
    let next ← branch r ends
    pure (read ++ next, ← keyword? keyword)) []

def otherwise (r : Rules) : Parser Mentions := afterKeyword "ELSE" (body r ["END"])

def closedIf (r : Rules) : Parser Mentions := do
  let ends := ["ELSE", "ELSEIF", "END"]
  let first ← branch r ends
  let others ← afterKeyword "ELSEIF" (branches r "ELSEIF" ends)
  let otherwise ← otherwise r
  expectKeywords ["END", "IF"]
  pure (first ++ others ++ otherwise)

def choice (r : Rules) : Parser Mentions := do
  let operand ← if ← atKeyword "WHEN" then pure [] else r.exprMentions
  expectKeyword "WHEN"
  let cases ← branches r "WHEN" ["WHEN", "ELSE", "END"]
  let otherwise ← otherwise r
  expectKeyword "END"
  let _ ← keyword? "CASE"
  pure (operand ++ cases ++ otherwise)

def whileLoop (r : Rules) : Parser Mentions := do
  let guard ← r.exprMentions
  pure (guard ++ (← body r ["END"]))

def semicolons : Parser Unit := repeatedly (symbol? ";")

def looseStatements (r : Rules) : Parser Mentions :=
  repeated do
    match ← peek with
    | none => pure none
    | some _ =>
        if ← atKeyword "END" then pure none
        else
          let statement ← r.statement
          semicolons
          pure (some statement)

def openBranch (r : Rules) : Parser Mentions := do
  if ← keyword? "BEGIN" then
    let statements ← looseStatements r
    expectKeyword "END"
    pure statements
  else r.statement

/-- A conditional that nothing closes; the last semicolon before a missing `ELSE` is left to
end the statement. -/
def openIf (r : Rules) : Parser Mentions := do
  let guard ← r.exprMentions
  let first ← openBranch r
  let before ← ahead
  semicolons
  if ← keyword? "ELSE" then pure (guard ++ first ++ (← openBranch r))
  else
    if isSymbol ";" (headToken before) then stepBack before else pure ()
    pure (guard ++ first)

def handled : Parser Unit :=
  repeatedly do
    if ← keyword? "THEN" then pure false
    else
      skipIdentifier
      let _ ← keyword? "OR"
      pure true

def handlers (r : Rules) : Parser Mentions :=
  repeated do
    if ← atKeyword "END" then pure none
    else
      expectKeyword "WHEN"
      handled
      pure (some (← statementsUntil r ["WHEN", "END"]))

def withHandlers (r : Rules) : Parser Mentions := do
  let statements ← statementsUntil r ["EXCEPTION", "END"]
  let handled ← afterKeyword "EXCEPTION" (handlers r)
  expectKeyword "END"
  pure (statements ++ handled)

def raise (r : Rules) : Parser Mentions := do
  if ← keywords? ["USING", "MESSAGE"] then
    expectSymbol "="
    r.exprMentions
  else pure ((← attempt r.exprMentions).getD [])

def raiseError (r : Rules) : Parser Mentions := do
  let parts ← parenthesized (separated r.exprMentions)
  require (3 ≤ parts.length)
  ifNext (keyword? "WITH")
    (quietly (separated (expectAnyKeyword ["LOG", "NOWAIT", "SETERROR"])))
  pure parts.flatten

end Block

end TableLineage.Sql
