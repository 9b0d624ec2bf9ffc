import TableLineage.Sql.Grammar.CreateTable
import TableLineage.Sql.Grammar.Property
import TableLineage.Sql.Grammar.Transfer

/-!
# Stages

Files are loaded from stages and unloaded to them.  The name of a stage starts
with an at sign and runs on as long as no blank comes between its characters.
-/

namespace TableLineage.Sql

open Sql.Parser

namespace Stage

def wordText (word : Word) : String :=
  match word.quote with
  | some '[' => "[" ++ word.text ++ "]"
  | some mark => mark.toString ++ word.text ++ mark.toString
  | none => word.text

def pieceText? : Token → Option String
  | .word word => some (wordText word)
  | .number text _ => some text
  | .symbol text => if ["@", "~", "%", "/", "+"].contains text then some text else none
  | _ => none

/-- A part of a name and the rest; `first` tells that a blank before it does not count.  A
semicolon that ends the part is read with it. -/
def partOf? (first : Bool) (read : String) : List Lexeme → Option (String × List Lexeme)
  | [] => some (read, [])
  | ⟨token, spaced⟩ :: rest =>
      if spaced && !first then some (read, ⟨token, spaced⟩ :: rest)
      else if token == .symbol ";" then some (read, rest)
      else if [.symbol ".", .symbol "(", .symbol ")"].contains token then
        some (read, ⟨token, spaced⟩ :: rest)
      else (pieceText? token).bind fun text => partOf? false (read ++ text) rest

def part (first : Bool) : Parser NamePart := do
  match partOf? first "" (← ahead) with
  | some (text, rest) =>
      resume rest
      pure (.ident ⟨text, none⟩)
  | none => fail

def name (r : Rules) : Parser Named := do
  if ← atSymbol "@" then
    let parts ← loop (fun read => do
      let read := (← part read.isEmpty) :: read
      pure (read, ← symbol? ".")) []
    pure ⟨parts.reverse, []⟩
  else objectName r false

def setText : Parser Unit := do
  expectSymbol "="
  singleString

def parameters : Parser Unit := do
  ifNext (keyword? "URL") setText
  ifNext (keyword? "STORAGE_INTEGRATION") do
    expectSymbol "="
    quietly next
  ifNext (keyword? "ENDPOINT") setText
  Property.ofName? "CREDENTIALS"
  Property.ofName? "ENCRYPTION"

def create (r : Rules) : Parser Unit := do
  let _ ← ifNotExists?
  anyName r
  parameters
  Property.ofName? "DIRECTORY"
  Property.ofName? "FILE_FORMAT"
  Property.ofName? "COPY_OPTIONS"
  ifNext (keyword? "COMMENT") do
    expectSymbol "="
    commentText

/-- Files of a stage that are listed or removed. -/
def files (r : Rules) : Parser Mentions := do
  let stage ← name r
  ifNext (keyword? "PATTERN") do
    expectSymbol "="
    stringLiteral
  pure stage.relation

def fileColumn : Parser Unit := do
  match ← next with
  | some (.placeholder text) =>
      let digits := (text.drop 1).toString
      require (wholeNumber? (Number.twoTo 31) digits).isSome
  | _ => fail

def fileItem : Parser Unit := do
  match ← peek with
  | some (.word _) =>
      let _ ← next
      expectSymbol "."
  | _ => pure ()
  fileColumn
  ifNext (symbol? ":") anyWord
  ifNext (keyword? "AS") anyWord

def loadedItem (r : Rules) : Parser Mentions := do
  match ← attempt fileItem with
  | some _ => pure []
  | none => Select.item r

def loadedRows (r : Rules) : Parser Mentions :=
  parenthesized do
    expectKeyword "SELECT"
    let items ← listed (loadedItem r)
    expectKeyword "FROM"
    let _ ← name r
    parameters
    let _ ← Factor.alias? r
    pure items

def fileNames : Parser Unit := do
  expectSymbol "="
  quietly (parenthesized (separated singleString))

/-- Reads the next option of a copy and tells whether there was one; a semicolon that ends them
is read. -/
def copyOption (r : Rules) (partition : Mentions) : Parser (Mentions × Bool) := do
  if ← keywords? ["PARTITION", "BY"] then pure (← r.exprMentions, true)
  else
    match ← next with
    | none | some (.symbol ";") => pure (partition, false)
    | some (.symbol ",") => pure (partition, true)
    | some (.word word) =>
        match word.keyword with
        | "FILE_FORMAT" | "COPY_OPTIONS" =>
            expectSymbol "="
            Property.group
        | "FILES" => fileNames
        | "PATTERN" => setText
        | "VALIDATION_MODE" =>
            expectSymbol "="
            quietly next
        | _ => Property.afterName
        pure (partition, true)
    | some _ => fail

def atFiles : Parser Bool := do
  match ← peek with
  | some (.symbol "@") => pure true
  | some (.string .single text) => pure (1 < (text.splitOn "://").length)
  | _ => pure false

/-- A copy into a table or into files; the rows are mentioned, and not where they go. -/
def copyInto (r : Rules) : Parser Mentions := do
  let unloads ← atFiles
  let _ ← name r
  if unloads then parameters else pure ()
  columnList? true
  expectKeyword "FROM"
  let rows ←
    if ← atSymbol "(" then
      if unloads then parenthesized r.query else loadedRows r
    else
      let _ ← name r
      parameters
      ifNext (keyword? "AS") anyWord
      pure []
  let partition ← loop (copyOption r) []
  pure (rows ++ partition)

/-- Reads the next clause of a database and tells whether there was one; a semicolon that ends
them is read. -/
def databaseClause (r : Rules) : Parser Bool := do
  match ← next with
  | none | some (.symbol ";") => pure false
  | some (.word word) =>
      match word.keyword with
      | "CLONE" => anyName r
      | "WITH" =>
          if ← keyword? "TAG" then Column.tags r
          else
            expectKeyword "CONTACT"
            quietly (parenthesized (separated do
              skipIdentifier
              expectSymbol "="
              skipIdentifier))
      | keyword =>
          expectSymbol "="
          match keyword with
          | "DATA_RETENTION_TIME_IN_DAYS" | "MAX_DATA_EXTENSION_TIME_IN_DAYS" => wholeNumber
          | "EXTERNAL_VOLUME" | "CATALOG" | "DEFAULT_DDL_COLLATION" | "COMMENT" | "CATALOG_SYNC"
          | "CATALOG_SYNC_NAMESPACE_FLATTEN_DELIMITER" => stringLiteral
          | "REPLACE_INVALID_CHARACTERS" => CreateTable.truth
          | "STORAGE_SERIALIZATION_POLICY" =>
              quietly (expectAnyKeyword ["COMPATIBLE", "OPTIMIZED"])
          | "CATALOG_SYNC_NAMESPACE_MODE" => quietly (expectAnyKeyword ["NEST", "FLATTEN"])
          | _ => fail
      pure true
  | some _ => fail

def createDatabase (r : Rules) : Parser Unit := do
  let _ ← ifNotExists?
  anyName r
  repeatedly (databaseClause r)

/-- The definitions of objects that this dialect has clauses of its own for, if one comes next
after the first word.  Words that belong to them only make any other definition fail. -/
def definition? (r : Rules) : Parser (Option Mentions) := do
  let before ← ahead
  let _ ← keywords? ["OR", "REPLACE"]
  let placed ← oneKeyword? ["LOCAL", "GLOBAL"]
  let dynamic ← keyword? "DYNAMIC"
  let kind ← anyKeyword? ["TEMP", "TEMPORARY", "VOLATILE", "TRANSIENT", "ICEBERG"]
  match ← anyKeyword? ["STAGE", "TABLE", "DATABASE"] with
  | some "STAGE" => pure (some (← silently (create r)))
  | some "TABLE" => pure (some (← CreateTable.parseLoose r (kind == some "ICEBERG")))
  | some _ => pure (some (← silently (createDatabase r)))
  | none =>
      let needsTable := [some "VOLATILE", some "TRANSIENT", some "ICEBERG"].contains kind
      require !(placed || dynamic || needsTable)
      resume before
      pure none

/-! ## Settings of the session -/

def sessionSetting (sets : Bool) : Parser Bool := do
  match ← ahead with
  | [] | ⟨.symbol ";", _⟩ :: _ => pure false
  | ⟨.symbol ",", _⟩ :: rest =>
      resume rest
      pure true
  | ⟨.word _, _⟩ :: rest =>
      resume rest
      if sets then Property.afterName else pure ()
      pure true
  | _ => fail

def alterSession : Parser Unit := do
  let keyword ← expectAnyKeyword ["SET", "UNSET"]
  repeatedly (symbol? ",")
  match ← peek with
  | some (.word _) => repeatedly (sessionSetting (keyword == "SET"))
  | _ => fail

end Stage

end TableLineage.Sql
