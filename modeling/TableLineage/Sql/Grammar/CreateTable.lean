import TableLineage.Sql.Grammar.Change
import TableLineage.Sql.Grammar.Storage

/-!
# Definitions of tables

A table that is created is mentioned before what its definition holds.  Tables
that it is like, or a clone of, are not read from.
-/

namespace TableLineage.Sql

open Sql.Parser

namespace CreateTable

def onCommit : Parser Unit := expectPhrase [["DELETE", "ROWS"], ["PRESERVE", "ROWS"], ["DROP"]]

def ordering (r : Rules) : Parser Mentions :=
  afterKeywords ["ORDER", "BY"] do
    if ← atSymbol "(" then
      parenthesized (mentionsOf (separatedOrNone (atSymbol ")") r.exprMentions))
    else r.exprMentions

def filling (r : Rules) : Parser Mentions := do
  if ← keyword? "AS" then r.query
  else given (onlyIf (← has Dialect.createTableSelect) (atKeyword "SELECT")) r.query

def strict (r : Rules) : Parser Mentions := do
  let d ← dialect
  let _ ← ifNotExists?
  let table ← relation r true
  onCluster?
  ifNext (oneKeyword? ["LIKE", "ILIKE"]) (quietly (objectName r true))
  ifNext (keyword? "CLONE") (quietly (looseName r true))
  let elements ← Column.elements? r
  let _ ← keywords? ["WITHOUT", "ROWID"]
  let parts ← Storage.partitionColumns r
  let buckets ← Storage.buckets? r
  let files ← Storage.fileClauses r
  let storage ← Storage.clauses r
  let key ← given (onlyIf d.tableParts (keywords? ["PRIMARY", "KEY"])) r.exprMentions
  let order ← ordering r
  ifNext (keywords? ["ON", "COMMIT"]) onCommit
  let _ ← keyword? "STRICT"
  let query ← filling r
  pure (table ++ elements.mentions ++ parts ++ files ++ storage.options ++ query ++ key ++ order ++
    storage.partition ++ storage.cluster ++ buckets)

def external (r : Rules) : Parser Mentions := do
  let _ ← ifNotExists?
  let table ← relation r false
  let elements ← Column.elements? r
  let parts ← Storage.partitionColumns r
  let files ← Storage.fileClauses r
  let properties ← options r "TBLPROPERTIES"
  pure (table ++ elements.mentions ++ parts ++ files ++ properties)

def virtual (r : Rules) : Parser Mentions := do
  expectKeyword "TABLE"
  let _ ← ifNotExists?
  let table ← relation r false
  expectKeyword "USING"
  skipIdentifier
  columnList? false
  pure table

/-! ## Clauses in any order -/

structure Loose where
  elements : Column.Elements
  query : Option Mentions
  isLike : Bool
  isClone : Bool
  hasBase : Bool
  version : Mentions
  cluster : Mentions

def Loose.empty : Loose := ⟨.none, none, false, false, false, [], []⟩

def Loose.tellsColumns (loose : Loose) : Bool :=
  loose.elements.count != 0 || loose.query.isSome || loose.isLike || loose.isClone

def Loose.mentions (loose : Loose) : Mentions :=
  loose.elements.mentions ++ loose.query.getD [] ++ loose.version ++ loose.cluster

def truth : Parser Unit := quietly (expectAnyKeyword ["TRUE", "FALSE"])

def setting? (keyword : String) : Option (Parser Unit) :=
  match keyword with
  | "ENABLE_SCHEMA_EVOLUTION" | "CHANGE_TRACKING" => some truth
  | "DATA_RETENTION_TIME_IN_DAYS" | "MAX_DATA_EXTENSION_TIME_IN_DAYS" => some wholeNumber
  | "DEFAULT_DDL_COLLATION" | "EXTERNAL_VOLUME" | "CATALOG" | "CATALOG_SYNC" | "TARGET_LAG" =>
      some stringLiteral
  | "STORAGE_SERIALIZATION_POLICY" =>
      some (quietly (expectAnyKeyword ["COMPATIBLE", "OPTIMIZED"]))
  | "WAREHOUSE" => some skipIdentifier
  | "REFRESH_MODE" => some (quietly (anyKeyword? ["AUTO", "FULL", "INCREMENTAL"]))
  | "INITIALIZE" => some (quietly (anyKeyword? ["ON_CREATE", "ON_SCHEDULE"]))
  | _ => none

def rowAccess (r : Rules) : Parser Unit := do
  expectKeywords ["ACCESS", "POLICY"]
  anyName r
  expectKeyword "ON"
  parenthesized identifiers

/-- Clauses that tell neither columns nor rows; their first word has been read. -/
def muteClause (r : Rules) (keyword : String) : Parser Unit := do
  match keyword with
  | "COPY" => expectKeyword "GRANTS"
  | "COMMENT" =>
      let _ ← symbol? "="
      commentText
  | "WITH" => require (← atAnyKeyword ["AGGREGATION", "TAG", "ROW"])
  | "AGGREGATION" =>
      expectKeyword "POLICY"
      anyName r
  | "ROW" => rowAccess r
  | "TAG" => Column.tags r
  | "ON" =>
      expectKeyword "COMMIT"
      onCommit
  | "IF" => expectKeywords ["NOT", "EXISTS"]
  | "REQUIRE" => expectKeyword "USER"
  | _ =>
      match setting? keyword with
      | some reading =>
          expectSymbol "="
          reading
      | none => fail

def looseClause (r : Rules) (keyword : String) (loose : Loose) : Parser Loose := do
  match keyword with
  | "AS" => pure { loose with query := some (← r.query) }
  | "CLONE" => pure { loose with isClone := ← looseName r false }
  | "LIKE" =>
      anyName r
      pure { loose with isLike := true }
  | "CLUSTER" =>
      expectKeyword "BY"
      pure { loose with cluster := ← parenthesized r.exprs }
  | "BASE_LOCATION" =>
      expectSymbol "="
      stringLiteral
      pure { loose with hasBase := true }
  | _ =>
      muteClause r keyword
      pure loose

def looseStep (r : Rules) (loose : Loose) : Parser (Loose × Bool) := do
  match ← peek with
  | none => pure (loose, false)
  | some (.symbol ";") => pure (loose, false)
  | some (.symbol "(") => pure ({ loose with elements := ← Column.elements? r }, true)
  | some (.word word) =>
      if ["AT", "BEFORE"].contains word.keyword then
        pure ({ loose with version := ← Factor.version? r }, true)
      else
        let _ ← next
        pure (← looseClause r word.keyword loose, true)
  | some _ => fail

/-- A table after its keyword, with its clauses in any order; `needsBase` tells that it has to
have a base location. -/
def parseLoose (r : Rules) (needsBase : Bool) : Parser Mentions := do
  let _ ← ifNotExists?
  let table ← relation r false
  let loose ← loop (looseStep r) .empty
  require loose.tellsColumns
  require (!needsBase || loose.hasBase)
  pure (table ++ loose.mentions)

end CreateTable

end TableLineage.Sql
