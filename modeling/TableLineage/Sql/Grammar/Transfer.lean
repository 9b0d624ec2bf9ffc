import TableLineage.Sql.Grammar.Phrase
import TableLineage.Sql.Grammar.Query

/-!
# Rows from and to files

`COPY`, `UNLOAD` and `EXPORT`.  A table whose rows are copied is not mentioned;
a query is.
-/

namespace TableLineage.Sql

open Sql.Parser

namespace Transfer

def truth? : Parser Unit := quietly (anyKeyword? ["TRUE", "FALSE"])

def option : Parser Unit := do
  match ← expectAnyKeyword ["FORMAT", "FREEZE", "DELIMITER", "NULL", "HEADER", "QUOTE", "ESCAPE",
      "FORCE_QUOTE", "FORCE_NOT_NULL", "FORCE_NULL", "ENCODING"] with
  | "FORMAT" => skipIdentifier
  | "FREEZE" | "HEADER" => truth?
  | "DELIMITER" | "QUOTE" | "ESCAPE" => characterLiteral
  | "NULL" | "ENCODING" => stringLiteral
  | _ => columnList false

def as? : Parser Unit := quietly (keyword? "AS")

def commaOption : Parser Unit := do
  match ← expectAnyKeyword ["HEADER", "QUOTE", "ESCAPE", "FORCE"] with
  | "HEADER" => pure ()
  | "FORCE" =>
      expectPhrase [["NOT", "NULL"], ["QUOTE"]]
      identifiers
  | _ =>
      as?
      characterLiteral

def whileWhole (p : Parser Unit) : Parser Unit :=
  repeatedly do pure (← attempt p).isSome

def switch? : Parser Unit := quietly (anyKeyword? ["TRUE", "FALSE", "ON", "OFF"])

def optionalText : Parser Unit := do
  as?
  match ← peek with
  | some (.string .single _) => stringLiteral
  | _ => pure ()

def fileSize : Parser Unit := do
  as?
  numberValue
  quietly (anyKeyword? ["MB", "GB"])

def authority : Parser Unit := do
  if ← keyword? "DEFAULT" then pure () else stringLiteral

def words : List String :=
  ["ACCEPTANYDATE", "ADDQUOTES", "ALLOWOVERWRITE", "BINARY", "BLANKSASNULL", "BZIP2", "CLEANPATH",
    "EMPTYASNULL", "ESCAPE", "GZIP", "HEADER", "JSON", "PARQUET", "REMOVEQUOTES",
    "TRUNCATECOLUMNS", "ZSTD"]

def bareOption : Parser Unit := do
  ifNext (keyword? "FORMAT") as?
  if ← oneKeyword? words then pure ()
  else
    match ← expectAnyKeyword ["ACCEPTINVCHARS", "COMPUPDATE", "CSV", "DATEFORMAT", "DELIMITER",
        "ENCRYPTED", "EXTENSION", "FIXEDWIDTH", "IAM_ROLE", "IGNOREHEADER", "MANIFEST",
        "MAXFILESIZE", "NULL", "PARALLEL", "PARTITION", "REGION", "ROWGROUPSIZE", "STATUPDATE",
        "TIMEFORMAT"] with
    | "ACCEPTINVCHARS" | "DATEFORMAT" | "TIMEFORMAT" => optionalText
    | "COMPUPDATE" =>
        let _ ← keyword? "PRESET"
        switch?
    | "CSV" => whileWhole commaOption
    | "DELIMITER" =>
        as?
        characterLiteral
    | "ENCRYPTED" => quietly (keyword? "AUTO")
    | "EXTENSION" | "FIXEDWIDTH" => stringLiteral
    | "IAM_ROLE" => authority
    | "IGNOREHEADER" =>
        as?
        wholeNumber
    | "MANIFEST" => quietly (keyword? "VERBOSE")
    | "MAXFILESIZE" | "ROWGROUPSIZE" => fileSize
    | "NULL" | "REGION" =>
        as?
        stringLiteral
    | "PARTITION" =>
        expectKeyword "BY"
        columnList false
        quietly (keyword? "INCLUDE")
    | _ => switch?

/-- Passes over rows that stand in the text itself, up to a backslash and a period. -/
def skipRows : List Lexeme → List Lexeme
  | ⟨.symbol "\\", _⟩ :: ⟨.symbol ".", _⟩ :: rest => rest
  | ⟨.symbol "\\", _⟩ :: _ :: rest => skipRows rest
  | _ :: rest => skipRows rest
  | [] => []

/-- The place that rows are copied from or to; true when it is the text itself. -/
def place : Parser Bool := do
  match ← anyKeyword? ["STDIN", "STDOUT", "PROGRAM"] with
  | some "STDIN" => pure true
  | some "STDOUT" => pure false
  | _ =>
      stringLiteral
      pure false

/-- The rows to copy: of a query, which can only be copied out, or of a table. -/
def source (r : Rules) : Parser Mentions := do
  if ← atSymbol "(" then
    let query ← parenthesized r.query
    expectKeyword "TO"
    pure query
  else
    anyName r
    columnList? false
    let _ ← expectAnyKeyword ["FROM", "TO"]
    pure []

def copy (r : Rules) : Parser Mentions := do
  let query ← source r
  let inText ← place
  let _ ← keyword? "WITH"
  ifNext (atSymbol "(") (quietly (parenthesized (separated option)))
  whileWhole bareOption
  ifNext (pure inText) do
    expectSymbol ";"
    resume (skipRows (← ahead))
  pure query

def unload (r : Rules) : Parser Mentions := do
  let query ← parenthesized do
    match ← peek with
    | some (.string .single _) => silently stringLiteral
    | _ => r.query
  expectKeyword "TO"
  skipIdentifier
  ifNext (keyword? "IAM_ROLE") authority
  let parameters ← options r "WITH"
  whileWhole bareOption
  pure (query ++ parameters)

def exportData (r : Rules) : Parser Mentions := do
  expectKeyword "DATA"
  ifNext (keywords? ["WITH", "CONNECTION"]) (anyName r)
  expectKeyword "OPTIONS"
  let parameters ← parenthesized (listed (namedOption r))
  expectKeyword "AS"
  pure (parameters ++ (← r.query))

end Transfer

end TableLineage.Sql
