import TableLineage.Sql.Grammar.Phrase
import TableLineage.Sql.Grammar.Query

/-!
# Settings and information

`SET`, `SHOW` and `USE`.  Settings mention what their values mention, and a
display mentions the object that it looks into.
-/

namespace TableLineage.Sql

open Sql.Parser

namespace Transaction

def isolationLevel : Parser Unit :=
  expectPhrase [["READ", "UNCOMMITTED"], ["READ", "COMMITTED"], ["REPEATABLE", "READ"],
    ["SERIALIZABLE"], ["SNAPSHOT"]]

def modes : Parser Unit := do
  let _ ← loop (fun required => do
    if ← keywords? ["ISOLATION", "LEVEL"] then
      isolationLevel
      pure (← symbol? ",", true)
    else if ← anyPhrase? [["READ", "ONLY"], ["READ", "WRITE"]] then pure (← symbol? ",", true)
    else
      require !required
      pure (false, false)) false

end Transaction

namespace Setting

def scope? : Parser Bool := oneKeyword? ["SESSION", "LOCAL", "GLOBAL"]

def assigns : Parser Bool := anyOf [symbol? "=", keyword? "TO"]

def values (r : Rules) : Parser Mentions :=
  listed do
    if ← atSubquery then r.query else r.exprMentions

def switch : Parser Unit := quietly (expectAnyKeyword ["ON", "OFF"])

/-- A setting of the session, given without an equals sign; its value is kept as text. -/
def ofSession (r : Rules) : Parser Unit := do
  if ← keyword? "STATISTICS" then
    let _ ← expectAnyKeyword ["IO", "PROFILE", "TIME", "XML"]
    switch
  else if ← keyword? "IDENTITY_INSERT" then
    anyName r
    switch
  else
    let offsets ← keyword? "OFFSETS"
    let _ ← separated anyWord
    if offsets then switch else quietly r.exprMentions

def role : Parser Unit := do
  expectKeyword "ROLE"
  if ← keyword? "NONE" then pure () else skipIdentifier

def names : Parser Unit := do
  if ← keyword? "DEFAULT" then pure ()
  else
    skipIdentifier
    keywordText? "COLLATE"

def special? (r : Rules) (hasScope : Bool) : Parser (Option Mentions) := do
  if ← anyPhrase? [["TIME", "ZONE"], ["TIMEZONE"]] then
    if ← assigns then pure (some (← values r)) else pure (some (← r.exprMentions))
  else if ← onlyIf (← has Dialect.setNames) (keyword? "NAMES") then
    names
    pure (some [])
  else if ← keyword? "CHARACTERISTICS" then
    expectKeywords ["AS", "TRANSACTION"]
    Transaction.modes
    pure (some [])
  else if ← keyword? "TRANSACTION" then
    if ← keyword? "SNAPSHOT" then value else Transaction.modes
    pure (some [])
  else if ← keyword? "AUTHORIZATION" then
    require hasScope
    skipIdentifier
    pure (some [])
  else pure none

def oneOfSeveral (r : Rules) : Parser Mentions := do
  let _ ← scope?
  anyName r
  require (← assigns)
  r.exprMentions

def assignment (r : Rules) : Parser Mentions := do
  let before ← ahead
  if ← onlyIf (← has Dialect.parenthesizedSet) (atSymbol "(") then
    parenthesized identifiers
    require (← assigns)
    parenthesized (values r)
  else
    anyName r
    if ← assigns then values r
    else
      require (← has Dialect.setWithoutOperator)
      stepBack before
      silently (ofSession r)

/-- A setting after its first word.  Where a list of assignments may come, the word for their
scope belongs to the first of them. -/
def set (r : Rules) : Parser Mentions := do
  let isVariable ← keyword? "HIVEVAR"
  ifNext (pure isVariable) (expectSymbol ":")
  let before ← ahead
  let hasScope ← onlyIf (!isVariable) scope?
  match ← attempt role with
  | some _ => pure []
  | none =>
      match ← special? r hasScope with
      | some mentions => pure mentions
      | none =>
          if ← has Dialect.commaSeparatedSet then
            if hasScope then resume before else pure ()
            match ← attempt (listed (oneOfSeveral r)) with
            | some mentions => pure mentions
            | none => assignment r
          else assignment r

def filter? (r : Rules) : Parser Mentions := do
  if ← oneKeyword? ["LIKE", "ILIKE"] then silently stringLiteral
  else if ← keyword? "WHERE" then r.exprMentions
  else silently (attempt stringLiteral)

/-- The object that is looked into, which the kind of it may stand for. -/
def place (r : Rules) : Parser Mentions := do
  match ← anyKeyword? ["ACCOUNT", "DATABASE", "SCHEMA", "TABLE", "VIEW"] with
  | some kind =>
      if ← onlyIf (kind == "DATABASE" || kind == "SCHEMA")
          (anyOf [atKeywords ["STARTS", "WITH"], atKeyword "LIMIT"]) then
        pure []
      else pure ((← attempt (relation r false)).getD [])
  | none =>
      let named ← objectName r false
      if ← oneKeyword? ["FROM", "IN"] then
        let owner ← identifier
        pure { named with name := .ident owner :: named.name }.relation
      else pure named.relation

def place? (r : Rules) : Parser Mentions := given (oneKeyword? ["FROM", "IN"]) (place r)

def selection (r : Rules) : Parser Mentions := do
  let filterFirst ← has Dialect.showFilterFirst
  let early ← if filterFirst then filter? r else pure []
  let place ← place? r
  let late ← if filterFirst then pure [] else filter? r
  ifNext (keywords? ["STARTS", "WITH"]) value
  let limit ← given (unwritten (keyword? "LIMIT")) (Query.limitValue r)
  ifNext (keyword? "FROM") value
  pure (place ++ limit ++ early ++ late)

def history? : Parser Unit := quietly (keyword? "HISTORY")

def showDefinition (r : Rules) : Parser Unit := do
  let _ ← expectAnyKeyword ["TABLE", "TRIGGER", "FUNCTION", "PROCEDURE", "EVENT", "VIEW"]
  anyName r

def showServer (r : Rules) : Parser Mentions := do
  let d ← dialect
  if ← keyword? "CREATE" then silently (showDefinition r)
  else if ← keyword? "COLLATION" then filter? r
  else if (← keyword? "VARIABLES") && d.serverVariables then filter? r
  else if (← keyword? "STATUS") && d.serverVariables then filter? r
  else if ← oneKeyword? ["DATABASES", "SCHEMAS"] then
    history?
    selection r
  else if ← anyPhrase? [["CHARACTER", "SET"], ["CHARSET"]] then filter? r
  else silently looseNames

def display (r : Rules) : Parser Mentions := do
  if ← onlyIf (← has Dialect.stages) (anyPhrase? [["TERSE", "OBJECTS"], ["OBJECTS"]]) then
    selection r
  else
    let _ ← keyword? "TERSE"
    let extended ← keyword? "EXTENDED"
    let full ← keyword? "FULL"
    let _ ← keyword? "SESSION"
    let _ ← keyword? "GLOBAL"
    let external ← keyword? "EXTERNAL"
    if ← anyPhrase? [["COLUMNS"], ["FIELDS"], ["MATERIALIZED", "VIEWS"], ["VIEWS"]] then selection r
    else if ← keyword? "TABLES" then
      if external then pure () else history?
      selection r
    else if ← keyword? "FUNCTIONS" then filter? r
    else
      require !(extended || full)
      showServer r

/-! ## Defaults of the session -/

def secondaryRoles : Parser Unit := do
  let _ ← expectAnyKeyword ["ROLES", "ROLE"]
  if ← oneKeyword? ["NONE", "ALL"] then pure () else identifiers

def use (r : Rules) : Parser Unit := do
  if ← has Dialect.secondaryRoles then
    if ← keyword? "SECONDARY" then secondaryRoles
    else
      let _ ← anyKeyword? ["DATABASE", "SCHEMA", "WAREHOUSE", "ROLE"]
      anyName r
  else anyName r

end Setting

end TableLineage.Sql
