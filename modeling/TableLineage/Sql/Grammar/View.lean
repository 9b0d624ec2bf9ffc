import TableLineage.Sql.Grammar.Column
import TableLineage.Sql.Grammar.Query

/-!
# Views

A view that is created is mentioned only through its query; one that is altered
is mentioned itself.
-/

namespace TableLineage.Sql

open Sql.Parser

namespace View

def column (r : Rules) : Parser Mentions := do
  skipIdentifier
  Column.options? r

def columns? (r : Rules) : Parser Mentions := do
  if !(← symbol? "(") then pure []
  else if ← symbol? ")" then pure []
  else
    let ends := if (← dialect).trailingCommaColumns then Select.endsItems else pure false
    let columns ← mentionsOf (separatedUntil ends (column r))
    expectSymbol ")"
    pure columns

def guardedName (r : Rules) : Parser Unit := do
  let guarded ← ifNotExists?
  quietly (objectName r true)
  let _ ← onlyIf (!guarded) ifNotExists?

def comment? : Parser Unit := do
  ifNext (onlyIf (← has Dialect.viewComment) (keyword? "COMMENT")) do
    expectSymbol "="
    commentText

def create (r : Rules) : Parser Mentions := do
  let d ← dialect
  let _ ← keyword? "SECURE"
  let _ ← keyword? "MATERIALIZED"
  expectKeyword "VIEW"
  guardedName r
  let columns ← columns? r
  let parameters ← someOptions? r ["WITH"]
  ifNext (keyword? "CLUSTER") do
    expectKeyword "BY"
    columnList? false
  let listed ← if d.optionList then someOptions? r ["OPTIONS"] else pure none
  ifNext (onlyIf d.viewTarget (keyword? "TO")) (anyName r)
  comment?
  expectKeyword "AS"
  let query ← r.query
  let _ ← onlyIf d.viewSchemaBinding (keywords? ["WITH", "NO", "SCHEMA", "BINDING"])
  pure (columns ++ query ++ (listed.or parameters).getD [])

def alter (r : Rules) : Parser Mentions := do
  let view ← relation r false
  columnList? false
  let parameters ← options r "WITH"
  expectKeyword "AS"
  pure (view ++ (← r.query) ++ parameters)

end View

end TableLineage.Sql
