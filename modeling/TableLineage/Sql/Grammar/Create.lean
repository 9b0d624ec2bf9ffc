import TableLineage.Sql.Grammar.CreateTable
import TableLineage.Sql.Grammar.Policy
import TableLineage.Sql.Grammar.Role
import TableLineage.Sql.Grammar.Routine
import TableLineage.Sql.Grammar.View

/-!
# Definitions

`CREATE` and the kinds of objects that it makes.  Only tables and the tables of
indexes and policies are mentioned by name.
-/

namespace TableLineage.Sql

open Sql.Parser

namespace Create

def buildOption? : Parser Bool := do
  match ← anyKeyword? ["ALGORITHM", "LOCK"] with
  | some keyword =>
      let _ ← symbol? "="
      let _ ← expectAnyKeyword
        (if keyword == "LOCK" then ["DEFAULT", "EXCLUSIVE", "NONE", "SHARED"]
        else ["DEFAULT", "INSTANT", "INPLACE", "COPY"])
      pure true
  | none => pure false

def index (r : Rules) : Parser Mentions := do
  let _ ← keyword? "CONCURRENTLY"
  let guarded ← ifNotExists?
  if ← onlyIf (!guarded) (keyword? "ON") then pure ()
  else
    anyName r
    let _ ← Column.indexType?
    expectKeyword "ON"
  let table ← relation r false
  let _ ← Column.indexType?
  let items ← indexItems r
  ifNext (keyword? "INCLUDE") (parenthesized identifiers)
  Column.nullsDistinct?
  let parameters ← given (onlyIf (← has Dialect.indexParameters) (keyword? "WITH"))
    (parenthesized r.exprs)
  let filter ← afterKeyword "WHERE" r.exprMentions
  Column.indexOptions?
  repeatedly buildOption?
  pure (table ++ items ++ parameters ++ filter)

def schemaName (r : Rules) : Parser Unit := do
  if ← keyword? "AUTHORIZATION" then skipIdentifier
  else
    anyName r
    ifNext (keyword? "AUTHORIZATION") skipIdentifier

def schema (r : Rules) : Parser Mentions := do
  let _ ← ifNotExists?
  schemaName r
  let collation ← afterKeywords ["DEFAULT", "COLLATE"] r.exprMentions
  let parameters ← options r "WITH"
  let listed ← options r "OPTIONS"
  ifNext (keyword? "CLONE") (anyName r)
  pure (parameters ++ listed ++ collation)

def database (r : Rules) : Parser Unit := do
  let _ ← ifNotExists?
  anyName r
  repeatedly do
    if ← oneKeyword? ["LOCATION", "MANAGEDLOCATION"] then
      stringLiteral
      pure true
    else pure false
  ifNext (keyword? "CLONE") (anyName r)

def typeAttribute (r : Rules) : Parser Mentions := do
  skipIdentifier
  let type ← r.wholeType
  ifNext (keyword? "COLLATE") (anyName r)
  pure type

def typeAttributes? (r : Rules) : Parser Mentions := do
  if !(← symbol? "(") then pure []
  else if ← symbol? ")" then pure []
  else
    loop (fun read => do
      let read := read ++ (← typeAttribute r)
      let comma ← symbol? ","
      if ← symbol? ")" then pure (read, false)
      else
        require comma
        pure (read, true)) []

def type (r : Rules) : Parser Mentions := do
  anyName r
  expectKeyword "AS"
  if ← keyword? "ENUM" then
    silently (parenthesized (separatedOrNone (atSymbol ")") identifier))
  else typeAttributes? r

def domain (r : Rules) : Parser Mentions := do
  anyName r
  expectKeyword "AS"
  let type ← r.wholeType
  ifNext (keyword? "COLLATE") skipIdentifier
  let value ← afterKeyword "DEFAULT" r.exprMentions
  pure (type ++ value ++ (← repeated (Column.constraint? r)))

def sequence (r : Rules) : Parser Mentions := do
  let _ ← ifNotExists?
  anyName r
  let type ← afterKeyword "AS" r.wholeType
  Column.sequenceOptions
  ifNext (keywords? ["OWNED", "BY"]) do
    if ← keyword? "NONE" then pure () else anyName r
  pure type

def extension : Parser Unit := do
  let _ ← ifNotExists?
  skipIdentifier
  ifNext (keyword? "WITH") do
    ifNext (keyword? "SCHEMA") skipIdentifier
    ifNext (keyword? "VERSION") skipIdentifier
    quietly (keyword? "CASCADE")

def connector (r : Rules) : Parser Mentions := do
  let _ ← ifNotExists?
  skipIdentifier
  keywordText? "TYPE"
  keywordText? "URL"
  let _ ← inlineComment?
  pure ((← someOptions? r ["WITH", "DCPROPERTIES"]).getD [])

def identifierPair : Parser Unit := do
  skipIdentifier
  skipIdentifier

def server (r : Rules) : Parser Unit := do
  let _ ← ifNotExists?
  anyName r
  ifNext (keyword? "TYPE") skipIdentifier
  ifNext (keyword? "VERSION") skipIdentifier
  expectKeywords ["FOREIGN", "DATA", "WRAPPER"]
  anyName r
  ifNext (keyword? "OPTIONS") (quietly (parenthesized (separated identifierPair)))

def secret : Parser Unit := do
  let _ ← ifNotExists?
  if ← atSymbol "(" then pure ()
  else if ← keyword? "IN" then quietly next
  else
    let _ ← next
    ifNext (keyword? "IN") (quietly next)
  parenthesized do
    expectKeyword "TYPE"
    skipIdentifier
    ifNext (symbol? ",") (quietly (separated identifierPair))

/-! ## All kinds -/

def viewParameters (r : Rules) : Parser Unit := do
  ifNext (keyword? "ALGORITHM") do
    expectSymbol "="
    quietly (expectAnyKeyword ["UNDEFINED", "MERGE", "TEMPTABLE"])
  ifNext (keyword? "DEFINER") do
    expectSymbol "="
    userName r
  ifNext (keywords? ["SQL", "SECURITY"]) (quietly (expectAnyKeyword ["DEFINER", "INVOKER"]))

def atView : Parser Bool :=
  anyOf [atAnyKeyword ["MATERIALIZED", "VIEW"], atKeywords ["SECURE", "MATERIALIZED", "VIEW"],
    atKeywords ["SECURE", "VIEW"]]

def fixed (r : Rules) : Parser Mentions := do
  if ← anyPhrase? [["INDEX"], ["UNIQUE", "INDEX"]] then index r
  else
    match ← expectAnyKeyword ["EXTENSION", "VIRTUAL", "SCHEMA", "DATABASE", "ROLE", "SEQUENCE",
        "TYPE", "PROCEDURE", "CONNECTOR", "SERVER"] with
    | "EXTENSION" => silently extension
    | "VIRTUAL" => CreateTable.virtual r
    | "SCHEMA" => schema r
    | "DATABASE" => silently (database r)
    | "ROLE" => silently (Role.create r)
    | "SEQUENCE" => sequence r
    | "TYPE" => type r
    | "PROCEDURE" => Routine.createProcedure r
    | "CONNECTOR" => connector r
    | _ => silently (server r)

def parse (r : Rules) : Parser Mentions := do
  let replaces ← keywords? ["OR", "REPLACE"]
  let _ ← keywords? ["OR", "ALTER"]
  let _ ← keyword? "LOCAL"
  let _ ← keyword? "GLOBAL"
  let _ ← keyword? "TRANSIENT"
  let _ ← anyKeyword? ["TEMP", "TEMPORARY"]
  viewParameters r
  if ← keyword? "TABLE" then CreateTable.strict r
  else if ← atView then View.create r
  else if ← anyPhrase? [["TRIGGER"], ["CONSTRAINT", "TRIGGER"]] then Routine.createTrigger r
  else
    match ← anyKeyword? ["POLICY", "EXTERNAL", "FUNCTION", "DOMAIN", "MACRO", "SECRET", "USER"] with
    | some "POLICY" => Policy.create r
    | some "EXTERNAL" =>
        expectKeyword "TABLE"
        CreateTable.external r
    | some "FUNCTION" => Routine.createFunction r
    | some "DOMAIN" => domain r
    | some "MACRO" => Routine.createMacro r
    | some "SECRET" => silently secret
    | some _ => silently Role.createUser
    | none =>
        require !replaces
        fixed r

end Create

end TableLineage.Sql
