import TableLineage.Sql.Grammar.Create

/-!
# Changes of definitions

`ALTER` and its operations.  An altered table is mentioned before what its
operations hold.
-/

namespace TableLineage.Sql

open Sql.Parser

namespace Alter

def identifierAfter (p : Parser Unit) : Parser Unit := do
  p
  skipIdentifier

def parts (r : Rules) : Parser Mentions := parenthesized r.exprs

def projection (r : Rules) : Parser Mentions := do
  let _ ← ifNotExists?
  skipIdentifier
  parenthesized do
    expectKeyword "SELECT"
    let items ← Select.items r
    let groups ← Select.groupBy r
    let order ← Query.orderBy r
    pure (items ++ order ++ groups)

def position? : Parser Unit := do
  if ← has Dialect.columnPositions then
    if ← keyword? "FIRST" then pure () else ifNext (keyword? "AFTER") skipIdentifier
  else pure ()

def newPartitions (r : Rules) : Parser (List Mentions) := do
  let found ← loop (fun read => do
    if ← keyword? "PARTITION" then pure ((← parts r) :: read, true)
    else pure (read, false)) []
  pure found.reverse

def addColumn (r : Rules) : Parser Mentions := do
  let _ ← keyword? "COLUMN"
  let _ ← onlyIf (← has Dialect.guardedColumns) ifNotExists?
  let column ← r.column
  position?
  pure column

def add (r : Rules) : Parser Mentions := do
  match ← Column.constraint? r with
  | some mentions =>
      let _ ← keywords? ["NOT", "VALID"]
      pure mentions
  | none =>
      if ← onlyIf (← has Dialect.tableParts) (keyword? "PROJECTION") then projection r
      else
        let _ ← ifNotExists?
        let partitions ← newPartitions r
        if partitions.isEmpty then addColumn r else pure partitions.flatten

def dropColumn : Parser Unit := do
  let _ ← keyword? "COLUMN"
  let _ ← ifExists?
  if ← has Dialect.dropColumnList then identifiers else skipIdentifier
  dropBehavior?

def drop (r : Rules) : Parser Mentions := do
  if ← anyPhrase? [["IF", "EXISTS", "PARTITION"], ["PARTITION"]] then parts r
  else silently do
    if ← keyword? "CONSTRAINT" then
      let _ ← ifExists?
      skipIdentifier
      dropBehavior?
    else if ← keywords? ["PRIMARY", "KEY"] then dropBehavior?
    else if ← keywords? ["FOREIGN", "KEY"] then
      skipIdentifier
      dropBehavior?
    else if ← keyword? "INDEX" then skipIdentifier
    else if (← keyword? "PROJECTION") && (← dialect).tableParts then
      let _ ← ifExists?
      skipIdentifier
    else if ← keywords? ["CLUSTERING", "KEY"] then pure ()
    else dropColumn

def rename (r : Rules) : Parser Unit := do
  if ← oneKeyword? ["TO", "AS"] then anyName r
  else
    let _ ← if ← onlyIf (← has Dialect.renameConstraint) (keyword? "CONSTRAINT") then pure true
      else keyword? "COLUMN"
    skipIdentifier
    expectKeyword "TO"
    skipIdentifier

def changedColumn (r : Rules) : Parser Mentions := do
  let type ← r.wholeType
  let options ← Column.options? r
  position?
  pure (type ++ options)

def columnType (r : Rules) : Parser Mentions := do
  let type ← r.wholeType
  pure (type ++ (← given (onlyIf (← has Dialect.alterTypeUsing) (keyword? "USING")) r.exprMentions))

def column (r : Rules) : Parser Mentions := do
  let _ ← keyword? "COLUMN"
  skipIdentifier
  if ← anyPhrase? [["SET", "NOT", "NULL"], ["DROP", "NOT", "NULL"], ["DROP", "DEFAULT"]] then
    pure []
  else if ← keywords? ["SET", "DEFAULT"] then r.exprMentions
  else if ← anyPhrase? [["SET", "DATA", "TYPE"], ["TYPE"]] then columnType r
  else
    expectKeywords ["ADD", "GENERATED"]
    let _ ← anyPhrase? [["ALWAYS"], ["BY", "DEFAULT"]]
    expectKeywords ["AS", "IDENTITY"]
    silently Column.sequenceOptions?

def switchOff : Parser Unit := do
  if ← keywords? ["ROW", "LEVEL", "SECURITY"] then pure ()
  else identifierAfter (quietly (expectAnyKeyword ["RULE", "TRIGGER"]))

def switchOn : Parser Unit := do
  if ← keywords? ["ROW", "LEVEL", "SECURITY"] then pure ()
  else
    let _ ← oneKeyword? ["ALWAYS", "REPLICA"]
    identifierAfter (quietly (expectAnyKeyword ["RULE", "TRIGGER"]))

def replicaIdentity : Parser Unit := do
  if ← oneKeyword? ["NONE", "FULL", "DEFAULT"] then pure ()
  else identifierAfter (expectKeywords ["USING", "INDEX"])

def part (r : Rules) : Parser Mentions := do
  let _ ← expectAnyKeyword ["PART", "PARTITION"]
  r.exprMentions

def frozenPart (r : Rules) : Parser Mentions := do
  let part ← part r
  ifNext (keyword? "WITH") (identifierAfter (expectKeyword "NAME"))
  pure part

def renameParts (r : Rules) : Parser Mentions := do
  let before ← parts r
  expectKeywords ["RENAME", "TO", "PARTITION"]
  pure (before ++ (← parts r))

def partOperation? (r : Rules) : Parser (Option Mentions) := do
  if ← anyPhrase? [["CLEAR", "PROJECTION"], ["MATERIALIZE", "PROJECTION"]] then
    let _ ← ifExists?
    skipIdentifier
    ifNext (keywords? ["IN", "PARTITION"]) skipIdentifier
    pure (some [])
  else
    match ← anyKeyword? ["ATTACH", "DETACH", "FREEZE", "UNFREEZE"] with
    | some "ATTACH" | some "DETACH" => pure (some (← part r))
    | some _ => pure (some (← frozenPart r))
    | none => pure none

def autoIncrement : Parser Unit := do
  let _ ← symbol? "="
  numberValue

def setOptions (r : Rules) : Parser Mentions := do
  match ← someOptions? r ["SET", "TBLPROPERTIES"] with
  | some mentions => pure mentions
  | none =>
      match ← someOptions? r ["SET"] with
      | some mentions => pure mentions
      | none => fail

def phraseOperation (r : Rules) : Parser Mentions := do
  let d ← dialect
  if ← keywords? ["REPLICA", "IDENTITY"] then silently replicaIdentity
  else if ← onlyIf d.tableOwners (keywords? ["OWNER", "TO"]) then silently skipIdentifier
  else if ← keywords? ["CLUSTER", "BY"] then parts r
  else if ← anyPhrase? [["SUSPEND", "RECLUSTER"], ["RESUME", "RECLUSTER"]] then pure []
  else if ← Create.buildOption? then pure []
  else if ← keyword? "AUTO_INCREMENT" then silently autoIncrement
  else if ← keywords? ["VALIDATE", "CONSTRAINT"] then silently skipIdentifier
  else
    match ← if d.tableParts then partOperation? r else pure none with
    | some mentions => pure mentions
    | none => setOptions r

def operation (r : Rules) : Parser Mentions := do
  match ← anyKeyword? ["ADD", "RENAME", "DISABLE", "ENABLE", "DROP", "PARTITION", "CHANGE",
      "MODIFY", "ALTER", "SWAP"] with
  | some "ADD" => add r
  | some "RENAME" => silently (rename r)
  | some "DISABLE" => silently switchOff
  | some "ENABLE" => silently switchOn
  | some "DROP" => drop r
  | some "PARTITION" => renameParts r
  | some "CHANGE" =>
      let _ ← keyword? "COLUMN"
      skipIdentifier
      skipIdentifier
      changedColumn r
  | some "MODIFY" =>
      let _ ← keyword? "COLUMN"
      skipIdentifier
      changedColumn r
  | some "ALTER" => column r
  | some _ =>
      expectKeyword "WITH"
      silently (anyName r)
  | none => phraseOperation r

def table (r : Rules) : Parser Mentions := do
  let _ ← ifExists?
  let _ ← keyword? "ONLY"
  let table ← relation r false
  onCluster?
  let operations ← listed (operation r)
  ifNext (anyPhrase? [["LOCATION"], ["SET", "LOCATION"]]) skipIdentifier
  pure (table ++ operations)

/-! ## Other objects -/

def typeLabel : Parser Unit := do
  let _ ← ifNotExists?
  skipIdentifier
  ifNext (oneKeyword? ["BEFORE", "AFTER"]) skipIdentifier

def type (r : Rules) : Parser Unit := do
  anyName r
  if ← keywords? ["RENAME", "TO"] then skipIdentifier
  else if ← keywords? ["ADD", "VALUE"] then typeLabel
  else
    expectKeywords ["RENAME", "VALUE"]
    skipIdentifier
    identifierAfter (expectKeyword "TO")

def index (r : Rules) : Parser Unit := do
  anyName r
  expectKeywords ["RENAME", "TO"]
  anyName r

def schema (r : Rules) : Parser Mentions := do
  let _ ← ifExists?
  anyName r
  if ← atKeywords ["SET", "OPTIONS"] then
    expectKeyword "SET"
    options r "OPTIONS"
  else if ← keywords? ["SET", "DEFAULT", "COLLATE"] then r.exprMentions
  else if ← keywords? ["ADD", "REPLICA"] then
    skipIdentifier
    options r "OPTIONS"
  else if ← anyPhrase? [["DROP", "REPLICA"], ["OWNER", "TO"]] then silently skipIdentifier
  else
    expectKeywords ["RENAME", "TO"]
    silently (anyName r)

def connector (r : Rules) : Parser Mentions := do
  skipIdentifier
  expectKeyword "SET"
  let properties ← someOptions? r ["DCPROPERTIES"]
  keywordText? "URL"
  ifNext (keyword? "OWNER") (identifierAfter (quietly (expectAnyKeyword ["USER", "ROLE"])))
  pure (properties.getD [])

/-- A change of a definition after its first word. -/
def parse (r : Rules) : Parser Mentions := do
  match ← expectAnyKeyword ["VIEW", "TYPE", "TABLE", "INDEX", "ROLE", "POLICY", "CONNECTOR",
      "ICEBERG", "SCHEMA"] with
  | "VIEW" => View.alter r
  | "TYPE" => silently (type r)
  | "TABLE" => table r
  | "INDEX" => silently (index r)
  | "ROLE" => Role.alter r
  | "POLICY" => Policy.alter r
  | "CONNECTOR" => connector r
  | "ICEBERG" =>
      expectKeyword "TABLE"
      table r
  | _ => schema r

end Alter

end TableLineage.Sql
