import TableLineage.Sql.Grammar.Phrase
import TableLineage.Sql.Grammar.Query

/-!
# Changes of data

The statements that put rows into tables, change them or take them out.  A
change may also stand where a query does, after the names it binds.
-/

namespace TableLineage.Sql

open Sql.Parser

namespace Change

def returning (r : Rules) : Parser Mentions := afterKeyword "RETURNING" (listed (Select.item r))

def conflictWord? : Parser Bool := do
  if ← anyPhrase? [["OR", "REPLACE"], ["OR", "ROLLBACK"], ["OR", "ABORT"], ["OR", "FAIL"],
      ["OR", "IGNORE"]] then pure true
  else if ← unwritten (keyword? "REPLACE") then
    ["OR", "REPLACE"].forM writeText
    pure true
  else pure false

def conflictAction (r : Rules) : Parser Mentions := do
  if ← keyword? "CONFLICT" then
    if ← keywords? ["ON", "CONSTRAINT"] then anyName r
    else ifNext (atSymbol "(") do
      write .joint
      columnList false
    expectKeyword "DO"
    if ← keyword? "NOTHING" then pure []
    else
      expectKeywords ["UPDATE", "SET"]
      let changes ← assignments r
      pure (changes ++ (← afterKeyword "WHERE" r.exprMentions))
  else
    expectKeywords ["DUPLICATE", "KEY", "UPDATE"]
    assignments r

def atParenthesizedQuery : Parser Bool := do
  let second ← peekAt 1
  if ← atSymbol "(" then pure (isKeyword "SELECT" second || isKeyword "WITH" second)
  else pure false

/-- Where the inserted rows come from; none are given before a format or settings. -/
def insertSource (r : Rules) : Parser Mentions := do
  let d ← dialect
  if ← keywords? ["DEFAULT", "VALUES"] then pure []
  else
    let partitions ←
      if ← atParenthesizedQuery then pure []
      else
        columnList? d.rowConstructors
        afterKeyword "PARTITION" (parenthesized r.exprs)
    let source ←
      if ← atAnyKeyword ["FORMAT", "SETTINGS"] then pure []
      else if ← onlyIf d.insertSet (keyword? "SET") then assignments r
      else r.query
    pure (source ++ partitions)

def insertInto (r : Rules) : Parser Mentions := do
  let d ← dialect
  let table ← relation r false
  ifNext (onlyIf d.insertTargetAlias (keyword? "AS")) skipIdentifier
  let source ← insertSource r
  ifNext (onlyIf d.insertPriority (keyword? "AS")) do
    anyName r
    columnList? false
  let conflict ← afterKeyword "ON" (conflictAction r)
  pure (table ++ source ++ conflict ++ (← returning r))

def insertDirectory (r : Rules) : Parser Mentions := do
  stringLiteral
  ifNext (keywords? ["STORED", "AS"]) fileFormat
  r.query

/-- An insertion.  What is to be done about conflicts is written with `INTO` and nothing else. -/
def insert (r : Rules) : Parser Mentions := do
  let priority ← has Dialect.insertPriority
  let (conflicts, conflict) ← apart conflictWord?
  let _ ← onlyIf priority (oneKeyword? ["LOW_PRIORITY", "DELAYED", "HIGH_PRIORITY"])
  let _ ← onlyIf priority (keyword? "IGNORE")
  let (_, overwrite) ← apart (keyword? "OVERWRITE")
  let (_, target) ← apart (keyword? "INTO")
  let (_, near) ← apart (keyword? "LOCAL")
  if ← atKeyword "DIRECTORY" then
    writeAll overwrite
    writeAll near
    expectKeyword "DIRECTORY"
    insertDirectory r
  else if conflicts then
    writeAll conflict
    writeText "INTO"
    let _ ← unwritten (keyword? "TABLE")
    insertInto r
  else
    writeAll overwrite
    writeAll target
    let _ ← keyword? "TABLE"
    insertInto r

def update (r : Rules) : Parser Mentions := do
  let _ ← conflictWord?
  let table ← Factor.withJoins r
  let fromFirst ← atKeyword "FROM"
  let early ← afterKeyword "FROM" (Factor.tables r)
  expectKeyword "SET"
  let changes ← assignments r
  let late ← given (onlyIf (!fromFirst) (keyword? "FROM")) (Factor.tables r)
  let filter ← afterKeyword "WHERE" r.exprMentions
  let answer ← returning r
  let limit ← afterKeyword "LIMIT" r.exprMentions
  pure (table ++ changes ++ early ++ late ++ filter ++ answer ++ limit)

def delete (r : Rules) : Parser Mentions := do
  if ← keyword? "FROM" then pure ()
  else if ← has Dialect.deleteWithoutFrom then pure ()
  else
    anyNames r
    expectKeyword "FROM"
  let tables ← listed (Factor.withJoins r)
  let others ← afterKeyword "USING" (listed (Factor.withJoins r))
  let filter ← afterKeyword "WHERE" r.exprMentions
  let answer ← returning r
  let order ← afterKeywords ["ORDER", "BY"] (orderItems r)
  let limit ← given (unwritten (keyword? "LIMIT")) (Query.limitValue r)
  pure (tables ++ others ++ filter ++ answer ++ order ++ limit)

def mergeInsertion (r : Rules) : Parser Mentions := do
  let d ← dialect
  columnList? d.rowConstructors
  if ← onlyIf d.mergeRow (keyword? "ROW") then pure []
  else
    expectKeyword "VALUES"
    Factor.valueRows r d.rowConstructors

/-- One branch; a row without a match in the target can only be inserted, and any other cannot
be. -/
def mergeBranch (r : Rules) : Parser Mentions := do
  let unmatched ← keyword? "NOT"
  expectKeyword "MATCHED"
  let bySource ← onlyIf unmatched (keywords? ["BY", "SOURCE"])
  let _ ← onlyIf (unmatched && !bySource) (keywords? ["BY", "TARGET"])
  let guard ← afterKeyword "AND" r.exprMentions
  expectKeyword "THEN"
  let action ← expectAnyKeyword ["UPDATE", "INSERT", "DELETE"]
  require ((action == "INSERT") == (unmatched && !bySource))
  let change ←
    match action with
    | "UPDATE" =>
        expectKeyword "SET"
        assignments r
    | "INSERT" => mergeInsertion r
    | _ => pure []
  pure (guard ++ change)

def mergeOutput (r : Rules) : Parser Mentions := do
  match ← anyKeyword? ["OUTPUT", "RETURNING"] with
  | some keyword =>
      let items ← Select.items r
      ifNext (onlyIf (keyword == "OUTPUT") (keyword? "INTO")) (Select.into r)
      pure items
  | none => pure []

def merge (r : Rules) : Parser Mentions := do
  let _ ← keyword? "INTO"
  let table ← r.factor
  expectKeyword "USING"
  let source ← r.factor
  expectKeyword "ON"
  let matched ← r.exprMentions
  if ← atKeyword "WHEN" then pure () else writeText ""
  let branches ← repeated do
    if ← keyword? "WHEN" then pure (some (← mergeBranch r)) else pure none
  pure (table.mentions ++ source.mentions ++ matched ++ branches ++ (← mergeOutput r))

def truncate (r : Rules) : Parser Mentions := do
  let _ ← keyword? "TABLE"
  let tables ← listed do
    let _ ← keyword? "ONLY"
    relation r false
  let partitions ← afterKeyword "PARTITION" (parenthesized r.exprs)
  if ← has Dialect.truncateBehavior then
    let _ ← anyPhrase? [["RESTART", "IDENTITY"], ["CONTINUE", "IDENTITY"]]
    dropBehavior?
  else pure ()
  onCluster?
  pure (tables ++ partitions)

end Change

/-! ## Queries and changes -/

/-- A query, which may also be a change of data after the names it binds. -/
def Query.parse (r : Rules) : Parser Mentions := do
  let bound ← Query.withClause r
  let body ←
    match ← anyKeyword? ["INSERT", "UPDATE", "DELETE", "MERGE"] with
    | some "INSERT" => Change.insert r
    | some "UPDATE" => Change.update r
    | some "DELETE" => Change.delete r
    | some _ => Change.merge r
    | none => Query.parseUnbound r
  pure (bound ++ body)

end TableLineage.Sql
