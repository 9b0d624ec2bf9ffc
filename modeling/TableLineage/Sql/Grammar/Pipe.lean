import TableLineage.Sql.Grammar.Select

/-!
# Steps piped after a query

Each step takes the rows of what stands before it.  Steps mention what they
hold in the order they are written.
-/

namespace TableLineage.Sql

open Sql.Parser

def assignment (r : Rules) : Parser Mentions := do
  if ← atSymbol "(" then parenthesized (anyNames r) else anyName r
  expectSymbol "="
  r.exprMentions

def assignments (r : Rules) : Parser Mentions := listed (assignment r)

/-- Names up to the end of a statement or of a piped step; what is no name on the way is passed
over. -/
def looseNames : Parser Unit :=
  repeatedly do
    match ← ahead with
    | [] => pure false
    | ⟨.symbol text, _⟩ :: rest =>
        if ["=", ";", "|>"].contains text then pure false
        else
          resume rest
          pure true
    | _ :: rest =>
        resume rest
        pure true

def setQuantifier : Parser Unit :=
  quietly (anyPhrase?
    [["DISTINCT", "BY", "NAME"], ["BY", "NAME"], ["ALL", "BY", "NAME"], ["ALL"], ["DISTINCT"]])

namespace Pipe

def alias? : Parser Unit := do
  if ← keyword? "AS" then skipIdentifier else quietly (attempt identifier)

def addedQueries (r : Rules) : Parser Mentions := listed (parenthesized r.query)

def distinctQueries (r : Rules) : Parser Mentions := do
  expectPhrase [["DISTINCT", "BY", "NAME"], ["DISTINCT"]]
  addedQueries r

def aggregateItem (r : Rules) : Parser Mentions := do
  let e ← r.exprMentions
  let _ ← aliasBut? ["ASC", "DESC", "GROUP"]
  let _ ← anyKeyword? ["ASC", "DESC"]
  pure e

def aggregate (r : Rules) : Parser Mentions := do
  let totals ← if ← atKeyword "GROUP" then pure [] else listed (aggregateItem r)
  pure (totals ++ (← afterKeywords ["GROUP", "BY"] (listed (aggregateItem r))))

def renamedColumn : Parser Unit := do
  skipIdentifier
  let _ ← keyword? "AS"
  skipIdentifier

def callStep (r : Rules) : Parser Mentions := do
  anyName r
  let e ← call r
  alias?
  pure e.mentions

def pivotStep (r : Rules) : Parser Mentions := do
  let mentions ← parenthesized do
    let aggregates ← listed (Factor.aggregateCall r)
    expectKeyword "FOR"
    repeatedly do
      skipIdentifier
      symbol? "."
    expectKeyword "IN"
    pure (aggregates ++ (← Factor.pivotValues r))
  alias?
  pure mentions

def unpivotStep : Parser Unit := do
  parenthesized do
    skipIdentifier
    expectKeyword "FOR"
    skipIdentifier
    expectKeyword "IN"
    parenthesized identifiers
  alias?

def step (r : Rules) : Parser Mentions := do
  if ← atAnyKeyword ["JOIN", "INNER", "LEFT", "RIGHT", "FULL", "CROSS"] then
    let (count, joined) ← r.joins
    require (count == 1)
    pure joined
  else
    match ← expectAnyKeyword ["SELECT", "EXTEND", "SET", "DROP", "AS", "WHERE", "LIMIT",
        "AGGREGATE", "ORDER", "TABLESAMPLE", "RENAME", "UNION", "INTERSECT", "EXCEPT", "CALL",
        "PIVOT", "UNPIVOT"] with
    | "SELECT" | "EXTEND" => listed (Select.item r)
    | "SET" => assignments r
    | "DROP" => silently looseNames
    | "AS" => silently skipIdentifier
    | "WHERE" => r.exprMentions
    | "LIMIT" =>
        let limit ← r.exprMentions
        pure (limit ++ (← afterKeyword "OFFSET" r.exprMentions))
    | "AGGREGATE" => aggregate r
    | "ORDER" =>
        expectKeyword "BY"
        orderItems r
    | "TABLESAMPLE" => Factor.sample r
    | "RENAME" => silently (separated renamedColumn)
    | "UNION" =>
        setQuantifier
        addedQueries r
    | "INTERSECT" | "EXCEPT" => distinctQueries r
    | "CALL" => callStep r
    | "PIVOT" => pivotStep r
    | _ => silently unpivotStep

def steps (r : Rules) : Parser Mentions := do
  if ← has Dialect.pipeSteps then
    repeated do
      if ← symbol? "|>" then pure (some (← step r)) else pure none
  else pure []

end Pipe

end TableLineage.Sql
