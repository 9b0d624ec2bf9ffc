import TableLineage.Sql.Grammar.Alter
import TableLineage.Sql.Grammar.Declare
import TableLineage.Sql.Grammar.Drop
import TableLineage.Sql.Grammar.Maintenance
import TableLineage.Sql.Grammar.Privilege
import TableLineage.Sql.Grammar.Session
import TableLineage.Sql.Grammar.Stage

/-!
# Statements

A statement is recognised by its first word, in some dialects by its first few.
-/

namespace TableLineage.Sql

open Sql.Parser

namespace Statement

def planOption (r : Rules) : Parser Mentions := do
  skipIdentifier
  if ← anyOf [atSymbol ",", atSymbol ")"] then pure [] else r.exprMentions

def planFormat : Parser Unit := do
  let _ ← symbol? "="
  quietly (expectAnyKeyword ["TEXT", "GRAPHVIZ", "JSON", "TRADITIONAL"])

def planMode (r : Rules) (hasOptions : Bool) : Parser Mentions := do
  if ← onlyIf hasOptions (atSymbol "(") then parenthesized (listed (planOption r))
  else if ← anyPhrase? [["QUERY", "PLAN"], ["ESTIMATE"]] then pure []
  else
    let _ ← keyword? "ANALYZE"
    let _ ← keyword? "VERBOSE"
    ifNext (keyword? "FORMAT") planFormat
    pure []

/-- The plan of a statement, which may not be an explanation again, or else the columns of a
table. -/
def explain (r : Rules) (keyword : String) : Parser Mentions := do
  let mode ← planMode r (keyword == "EXPLAIN" && (← has Dialect.explainOptions))
  let again ← atAnyKeyword ["EXPLAIN", "DESCRIBE", "DESC"]
  match ← attempt r.statement with
  | some statement =>
      require !again
      pure (statement ++ mode)
  | none =>
      let _ ← anyKeyword? ["EXTENDED", "FORMATTED"]
      let _ ← onlyIf (← has Dialect.describeNeedsTable) (keyword? "TABLE")
      relation r false

def begin (r : Rules) : Parser Mentions := do
  let d ← dialect
  let opensTransaction ←
    match ← peek with
    | none => pure true
    | some token => pure (token == .symbol ";" || isKeyword "TRANSACTION" (some token))
  if d.blocks && !(d.blocksBesideTransactions && opensTransaction) then Block.withHandlers r
  else silently Transaction.start

def create (r : Rules) : Parser Mentions := do
  let d ← dialect
  if ← onlyIf d.triggerTableFirst (anyPhrase? [["TRIGGER"], ["OR", "ALTER", "TRIGGER"]]) then
    Routine.blockTrigger r
  else
    match ← if d.stages then Stage.definition? r else pure none with
    | some mentions => pure mentions
    | none => Create.parse r

def special? (r : Rules) : Parser (Option Mentions) := do
  let d ← dialect
  if ← onlyIf d.tableLocks (keywords? ["LOCK", "TABLES"]) then
    pure (some (← silently (separated Maintenance.lockedTable)))
  else if ← onlyIf d.tableLocks (keywords? ["UNLOCK", "TABLES"]) then pure (some [])
  else if ← onlyIf d.stages (keywords? ["ALTER", "SESSION"]) then
    pure (some (← silently Stage.alterSession))
  else if ← onlyIf d.stages (keywords? ["COPY", "INTO"]) then pure (some (← Stage.copyInto r))
  else if ← onlyIf d.stages (oneKeyword? ["LIST", "LS", "REMOVE", "RM"]) then
    pure (some (← Stage.files r))
  else pure none

/-! ## First words -/

/-- The rest of a statement that reads or changes rows; nothing if the word opens no such
statement. -/
def ofRows? (r : Rules) (d : Dialect) (keyword : String) : Option (Parser Mentions) :=
  match keyword with
  | "INSERT" => some (Change.insert r)
  | "REPLACE" => if d.insertPriority then some (Change.insert r) else none
  | "UPDATE" => some (Change.update r)
  | "DELETE" => some (Change.delete r)
  | "MERGE" => some (Change.merge r)
  | "TRUNCATE" => some (Change.truncate r)
  | "EXPLAIN" | "DESCRIBE" | "DESC" => some (explain r keyword)
  | "COPY" => some (Transfer.copy r)
  | "UNLOAD" => some (Transfer.unload r)
  | "EXPORT" => some (Transfer.exportData r)
  | "CALL" => some (Session.call r)
  | "EXEC" | "EXECUTE" => some (Session.execute r)
  | "PREPARE" => some (Session.prepare r)
  | "DEALLOCATE" => some (silently Session.deallocate)
  | "FETCH" => some (silently (Cursor.fetch r))
  | "OPEN" | "CLOSE" => some (silently skipIdentifier)
  | _ => none

def ofDefinitions? (r : Rules) (keyword : String) : Option (Parser Mentions) :=
  match keyword with
  | "CREATE" => some (create r)
  | "ALTER" => some (Alter.parse r)
  | "DROP" => some (Drop.parse r)
  | "DECLARE" => some (Declare.parse r)
  | "GRANT" => some (Privilege.grant r)
  | "REVOKE" => some (Privilege.revoke r)
  | "DENY" => some (Privilege.deny r)
  | "SET" => some (Setting.set r)
  | "SHOW" => some (Setting.display r)
  | "USE" => some (silently (Setting.use r))
  | _ => none

def ofControl? (r : Rules) (d : Dialect) (keyword : String) : Option (Parser Mentions) :=
  match keyword with
  | "START" => some (silently (expectKeyword "TRANSACTION" *> Transaction.modes))
  | "BEGIN" => some (begin r)
  | "END" => some (silently Transaction.finish)
  | "COMMIT" => some (silently Transaction.chain)
  | "ROLLBACK" => some (silently Transaction.rollback)
  | "SAVEPOINT" => some (silently skipIdentifier)
  | "RELEASE" => some (silently Transaction.release)
  | "IF" => some (if d.openBranches then Block.openIf r else Block.closedIf r)
  | "CASE" => some (Block.choice r)
  | "WHILE" => some (Block.whileLoop r)
  | "RAISE" => some (Block.raise r)
  | "RAISERROR" => some (Block.raiseError r)
  | "PRINT" => some r.exprMentions
  | "RETURN" => some do pure ((← attempt r.exprMentions).getD [])
  | "ASSERT" => some do
      let asserted ← r.exprMentions
      pure (asserted ++ (← afterKeyword "AS" r.exprMentions))
  | _ => none

def ofMaintenance? (r : Rules) (d : Dialect) (keyword : String) : Option (Parser Mentions) :=
  let only := fun (feature : Bool) (p : Parser Unit) => if feature then some (silently p) else none
  match keyword with
  | "ANALYZE" => some (Maintenance.analyze r)
  | "VACUUM" => some (silently (Maintenance.vacuum r))
  | "MSCK" => some (Maintenance.repair r)
  | "OPTIMIZE" => if d.tableParts then some (Maintenance.optimize r) else none
  | "RENAME" => some (silently (Maintenance.rename r))
  | "CACHE" => some (Maintenance.cache r)
  | "UNCACHE" => some (Maintenance.uncache r)
  | "FLUSH" => some (silently (Maintenance.flush r))
  | "ATTACH" => some (Maintenance.attach r)
  | "DETACH" => some (silently Maintenance.detach)
  | "INSTALL" => only d.installedExtensions skipIdentifier
  | "LOAD" => only d.loadedExtensions skipIdentifier
  | "PRAGMA" => some (silently (Maintenance.pragma r))
  | "COMMENT" => some (silently (Maintenance.comment r))
  | "KILL" => some (silently Maintenance.kill)
  | "DISCARD" => some (silently Maintenance.discard)
  | "LISTEN" => only d.listenNotify skipIdentifier
  | "UNLISTEN" => only d.listenNotify Maintenance.unlisten
  | "NOTIFY" => only d.listenNotify Maintenance.notify
  | _ => none

/-- The rest of a statement whose first word has been read, if the word opens one. -/
def afterWord? (r : Rules) (d : Dialect) (keyword : String) : Option (Parser Mentions) :=
  (ofRows? r d keyword).or ((ofDefinitions? r keyword).or
    ((ofControl? r d keyword).or (ofMaintenance? r d keyword)))

def afterWord (r : Rules) (keyword : String) : Parser Mentions := do
  match afterWord? r (← dialect) keyword with
  | some rest => rest
  | none => fail

/-- A statement, given the productions further in. -/
def parse (r : Rules) : Parser Mentions := do
  match ← special? r with
  | some mentions => pure mentions
  | none =>
      match ← peek with
      | some (.word word) =>
          if ["SELECT", "WITH", "VALUES", "FROM"].contains word.keyword then r.query
          else
            let _ ← next
            afterWord r word.keyword
      | some (.symbol "(") => r.query
      | _ => fail

end Statement

end TableLineage.Sql
