import TableLineage.Sql.Grammar.Column

/-!
# How tables are stored

Where the rows of a table lie, how they are laid out and divided, and the
options that a server takes with a table.
-/

namespace TableLineage.Sql

open Sql.Parser

namespace Storage

/-- What separates the parts of a row, told in phrases; a phrase that breaks off ends them. -/
def rowDelimiters : Parser Unit :=
  repeatedly do
    match ← anyKeyword? ["FIELDS", "COLLECTION", "MAP", "LINES", "NULL"] with
    | some keyword =>
        let phrase :=
          match keyword with
          | "COLLECTION" => ["ITEMS", "TERMINATED", "BY"]
          | "MAP" => ["KEYS", "TERMINATED", "BY"]
          | "NULL" => ["DEFINED", "AS"]
          | _ => ["TERMINATED", "BY"]
        if ← keywords? phrase then
          skipIdentifier
          ifNext (onlyIf (keyword == "FIELDS") (keywords? ["ESCAPED", "BY"])) skipIdentifier
          pure true
        else pure false
    | none => pure false

def rowFormat : Parser Unit := do
  expectKeyword "FORMAT"
  if ← keyword? "SERDE" then stringLiteral
  else
    let _ ← keyword? "DELIMITED"
    rowDelimiters

def storedAs (r : Rules) : Parser Mentions := do
  if ← keyword? "INPUTFORMAT" then
    let input ← r.exprMentions
    expectKeyword "OUTPUTFORMAT"
    pure (input ++ (← r.exprMentions))
  else silently fileFormat

/-- How rows are written to files, in clauses of any order; properties are mentioned before
formats. -/
def fileClauses (r : Rules) : Parser Mentions := do
  let (properties, formats) ← loop (fun (properties, formats) => do
    match ← anyKeyword? ["ROW", "STORED", "LOCATION"] with
    | some "ROW" =>
        rowFormat
        pure ((properties, formats), true)
    | some "STORED" =>
        expectKeyword "AS"
        pure ((properties, ← storedAs r), true)
    | some _ =>
        stringLiteral
        pure ((properties, formats), true)
    | none =>
        match ← someOptions? r ["WITH", "SERDEPROPERTIES"] with
        | some more => pure ((more, formats), true)
        | none => pure ((properties, formats), false)) ([], [])
  pure (properties ++ formats)

def partitionColumns (r : Rules) : Parser Mentions :=
  afterKeywords ["PARTITIONED", "BY"] (parenthesized (listed r.column))

def buckets? (r : Rules) : Parser Mentions := do
  given (onlyIf (← has Dialect.bucketedTables) (keywords? ["CLUSTERED", "BY"])) do
    columnList false
    let order ← afterKeywords ["SORTED", "BY"] (parenthesized (orderItems r))
    expectKeyword "INTO"
    numberValue
    expectKeyword "BUCKETS"
    pure order

def optionNames : List (List String) :=
  [["DEFAULT", "CHARSET"], ["CHARSET"], ["DEFAULT", "CHARACTER", "SET"], ["CHARACTER", "SET"],
    ["DEFAULT", "COLLATE"], ["COLLATE"], ["DATA", "DIRECTORY"], ["INDEX", "DIRECTORY"],
    ["KEY_BLOCK_SIZE"], ["ROW_FORMAT"], ["PACK_KEYS"], ["STATS_AUTO_RECALC"],
    ["STATS_PERSISTENT"], ["STATS_SAMPLE_PAGES"], ["DELAY_KEY_WRITE"], ["COMPRESSION"],
    ["ENCRYPTION"], ["MAX_ROWS"], ["MIN_ROWS"], ["AUTOEXTEND_SIZE"], ["AVG_ROW_LENGTH"],
    ["CHECKSUM"], ["CONNECTION"], ["ENGINE_ATTRIBUTE"], ["PASSWORD"],
    ["SECONDARY_ENGINE_ATTRIBUTE"], ["INSERT_METHOD"], ["AUTO_INCREMENT"]]

def tableSpace : Parser Unit := do
  match ← next with
  | some (.word _) | some (.string .single _) => pure ()
  | _ => fail
  ifNext (keyword? "STORAGE") do
    let _ ← symbol? "="
    quietly (expectAnyKeyword ["DISK", "MEMORY"])

def engine : Parser Unit := do
  anyWord
  ifNext (atSymbol "(") (parenthesized identifiers)

def optionValue : Parser Unit := do
  match ← attempt value with
  | some _ => pure ()
  | none => skipIdentifier

def option? : Parser Bool := do
  let reads (p : Parser Unit) : Parser Bool := do
    let _ ← symbol? "="
    p
    pure true
  if ← keywords? ["START", "TRANSACTION"] then pure true
  else if ← keyword? "COMMENT" then reads singleString
  else if ← keyword? "ENGINE" then reads engine
  else if ← keyword? "TABLESPACE" then reads tableSpace
  else if ← keyword? "UNION" then
    reads (quietly (parenthesized (separatedOrNone (atSymbol ")") identifier)))
  else if ← anyPhrase? optionNames then reads optionValue
  else pure false

def options? : Parser Unit :=
  repeatedly do
    if ← option? then
      let _ ← symbol? ","
      pure true
    else pure false

/-- What the clauses on the storage of a table mention, as far as they stand apart. -/
structure Clauses where
  options : Mentions
  partition : Mentions
  cluster : Mentions

/-- The clauses with options; a later list of options takes the place of an earlier one, and
options of servers only stand where there is no list. -/
def clauses (r : Rules) : Parser Clauses := do
  let d ← dialect
  ifNext (keyword? "INHERITS") (quietly (parenthesized (separated (objectName r true))))
  let parameters ← someOptions? r ["WITH"]
  let properties ← someOptions? r ["TBLPROPERTIES"]
  let partition ← given (onlyIf d.tablePartitioning (keywords? ["PARTITION", "BY"])) r.exprMentions
  let cluster ← given (onlyIf d.optionList (keywords? ["CLUSTER", "BY"])) r.exprs
  let listed ←
    if ← onlyIf d.optionList (atKeyword "OPTIONS") then pure (some (← Sql.options r "OPTIONS"))
    else pure none
  let chosen := listed.or (properties.or parameters)
  if chosen.isNone then options? else pure ()
  pure ⟨chosen.getD [], partition, cluster⟩

end Storage

end TableLineage.Sql
