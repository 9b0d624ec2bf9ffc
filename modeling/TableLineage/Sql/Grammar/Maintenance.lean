import TableLineage.Sql.Grammar.Query
import TableLineage.Sql.Grammar.Phrase

/-!
# Maintenance

Statements that look after a database.  Where a statement reads the rows of a
table it names, the table is mentioned.
-/

namespace TableLineage.Sql

open Sql.Parser

namespace Maintenance

/-- Statistics of a table, of its columns or of some of its parts; the last parts told count. -/
def analyze (r : Rules) : Parser Mentions := do
  let _ ← keyword? "TABLE"
  let table ← relation r false
  let parts ← loop (fun parts => do
    match ← anyKeyword? ["PARTITION", "FOR", "CACHE", "NOSCAN", "COMPUTE"] with
    | some "PARTITION" => pure (← parenthesized r.exprs, true)
    | some "FOR" =>
        expectKeyword "COLUMNS"
        let _ ← attempt identifiers
        pure (parts, true)
    | some "CACHE" =>
        expectKeyword "METADATA"
        pure (parts, true)
    | some "COMPUTE" =>
        expectKeyword "STATISTICS"
        pure (parts, true)
    | some _ => pure (parts, true)
    | none => pure (parts, false)) []
  pure (table ++ parts)

def vacuum (r : Rules) : Parser Unit := do
  let _ ← keyword? "FULL"
  let _ ← keywords? ["SORT", "ONLY"]
  let _ ← keywords? ["DELETE", "ONLY"]
  let _ ← keyword? "REINDEX"
  let _ ← keyword? "RECLUSTER"
  match ← attempt (anyName r) with
  | some _ =>
      ifNext (keyword? "TO") do
        value
        expectKeyword "PERCENT"
      quietly (keyword? "BOOST")
  | none => pure ()

def repair (r : Rules) : Parser Mentions := do
  let _ ← keyword? "REPAIR"
  expectKeyword "TABLE"
  let table ← relation r false
  let _ ← attempt do
    let _ ← anyKeyword? ["ADD", "DROP", "SYNC"]
    expectKeyword "PARTITIONS"
  pure table

def optimize (r : Rules) : Parser Mentions := do
  expectKeyword "TABLE"
  anyName r
  onCluster?
  let part ← afterKeyword "PARTITION" do
    if ← keyword? "ID" then silently skipIdentifier else r.exprMentions
  let _ ← keyword? "FINAL"
  let compared ← afterKeyword "DEDUPLICATE" (afterKeyword "BY" r.exprMentions)
  pure (part ++ compared)

def rename (r : Rules) : Parser Unit := do
  expectKeyword "TABLE"
  quietly (separated do
    anyName r
    expectKeyword "TO"
    anyName r)

/-- A table that is kept, with the query that fills it unless the text ends first. -/
def cache (r : Rules) : Parser Mentions := do
  if ← keyword? "TABLE" then pure ()
  else
    anyName r
    expectKeyword "TABLE"
  let table ← relation r false
  let parameters ← options r "OPTIONS"
  let query ←
    match ← peek with
    | none => pure []
    | some (.word _) =>
        let _ ← keyword? "AS"
        r.query
    | some _ => fail
  pure (table ++ parameters ++ query)

def uncache (r : Rules) : Parser Mentions := do
  expectKeyword "TABLE"
  let _ ← ifExists?
  relation r false

def lockedTable : Parser Unit := do
  skipIdentifier
  let _ ← aliasBut? ["READ", "WRITE", "LOW_PRIORITY"]
  if ← keyword? "READ" then quietly (keyword? "LOCAL")
  else expectPhrase [["WRITE"], ["LOW_PRIORITY", "WRITE"]]

def flushKinds : List (List String) :=
  [["BINARY", "LOGS"], ["ENGINE", "LOGS"], ["ERROR", "LOGS"], ["GENERAL", "LOGS"], ["HOSTS"],
    ["PRIVILEGES"], ["OPTIMIZER_COSTS"], ["SLOW", "LOGS"], ["STATUS"], ["USER_RESOURCES"],
    ["LOGS"]]

/-- Reads what follows `TABLES` up to a lexeme that is no word, which is read as well. -/
def flushedTables (r : Rules) : Parser Unit :=
  repeatedly do
    match ← peek with
    | some (.word word) =>
        if word.isKeyword then
          let _ ← next
          let _ ← onlyIf (word.keyword == "WITH") (keywords? ["READ", "LOCK"])
          let _ ← onlyIf (word.keyword == "FOR") (keyword? "EXPORT")
        else anyNames r
        pure true
    | _ =>
        let _ ← next
        pure false

def flush (r : Rules) : Parser Unit := do
  require (← has Dialect.flush)
  let _ ← oneKeyword? ["NO_WRITE_TO_BINLOG", "LOCAL"]
  if ← anyPhrase? flushKinds then pure ()
  else if ← keywords? ["RELAY", "LOGS"] then ifNext (keywords? ["FOR", "CHANNEL"]) (anyName r)
  else
    expectKeyword "TABLES"
    flushedTables r

def attach (r : Rules) : Parser Mentions := do
  let _ ← keyword? "DATABASE"
  let file ← r.exprMentions
  expectKeyword "AS"
  skipIdentifier
  pure file

def detach : Parser Unit := do
  require (← has Dialect.detach)
  let _ ← keyword? "DATABASE"
  let _ ← ifExists?
  skipIdentifier

def pragmaValue : Parser Unit := do
  let kind ← literal
  require (kind != .other)

def pragma (r : Rules) : Parser Unit := do
  anyName r
  if ← atSymbol "(" then parenthesized pragmaValue else ifNext (symbol? "=") pragmaValue

def commentedKinds : List (List String) :=
  [["COLUMN"], ["DATABASE"], ["DOMAIN"], ["EXTENSION"], ["FUNCTION"], ["INDEX"],
    ["MATERIALIZED", "VIEW"], ["PROCEDURE"], ["ROLE"], ["SCHEMA"], ["SEQUENCE"], ["TABLE"],
    ["TYPE"], ["USER"], ["VIEW"]]

def comment (r : Rules) : Parser Unit := do
  require (← has Dialect.commentOn)
  let _ ← ifExists?
  expectKeyword "ON"
  expectPhrase commentedKinds
  anyName r
  expectKeyword "IS"
  if ← keyword? "NULL" then pure () else stringLiteral

/-! ## Connections -/

def kill : Parser Unit := do
  let kind ← anyKeyword? ["CONNECTION", "QUERY", "MUTATION"]
  require (kind != some "MUTATION" || (← has Dialect.tableParts))
  wholeNumber

def discard : Parser Unit :=
  quietly (expectAnyKeyword ["ALL", "PLANS", "SEQUENCES", "TEMP", "TEMPORARY"])

def unlisten : Parser Unit := do
  if ← symbol? "*" then pure () else skipIdentifier

def notify : Parser Unit := do
  skipIdentifier
  ifNext (symbol? ",") stringLiteral

end Maintenance

end TableLineage.Sql
