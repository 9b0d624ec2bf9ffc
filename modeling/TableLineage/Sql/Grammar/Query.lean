import TableLineage.Sql.Grammar.Pipe

/-!
# Queries

A query binds common tables, has a body of selects, value rows and set
operators, and ends in ordering, limits, locks and piped steps.
-/

namespace TableLineage.Sql

open Sql.Parser

namespace Query

def setOperator? : Option Token → Option Nat
  | some (.word word) =>
      match word.keyword with
      | "UNION" | "EXCEPT" | "MINUS" => some 10
      | "INTERSECT" => some 20
      | _ => none
  | _ => none

/-- The name of a whole table, for which three lexemes are read even if the name is shorter. -/
def wholeTable : Parser Unit := do
  let first ← next
  let second ← next
  let third ← next
  match first with
  | some (.word word) =>
      writeText word.text
      if isSymbol "." second then
        match third with
        | some (.word part) =>
            writeSymbol "."
            writeText part.text
        | _ => fail
      else pure ()
  | _ => fail

def bodyHead (r : Rules) : Parser Mentions := do
  let d ← dialect
  if ← anyOf [atKeyword "SELECT", onlyIf d.fromFirst (atKeyword "FROM")] then Select.parse r
  else if ← atSymbol "(" then parenthesized r.query
  else if ← keyword? "VALUES" then Factor.valueRows r d.rowConstructors
  else
    expectKeyword "TABLE"
    silently wholeTable

def parseBody (r : Rules) (strength : Nat) : Parser Mentions := do
  let first ← bodyHead r
  loop (fun left => do
    match setOperator? (← peek) with
    | none => pure (left, false)
    | some ahead =>
        if ahead ≤ strength then pure (left, false)
        else
          let _ ← anyKeyword? ["UNION", "EXCEPT", "MINUS", "INTERSECT"]
          setQuantifier
          let right ← r.queryBody ahead
          pure (left ++ right, true)) first

def commonTable (r : Rules) : Parser (String × Mentions) := do
  let name ← identifier
  if ← keyword? "AS" then pure ()
  else
    Factor.aliasColumns? r
    expectKeyword "AS"
  let _ ← onlyIf (← has Dialect.materializedHint)
    (anyPhrase? [["MATERIALIZED"], ["NOT", "MATERIALIZED"]])
  let query ← parenthesized r.query
  ifNext (keyword? "FROM") skipIdentifier
  pure (name.value, query)

def withClause (r : Rules) : Parser Mentions :=
  afterKeyword "WITH" do
    let _ ← keyword? "RECURSIVE"
    let tables ← separated (commonTable r)
    pure (.commonTables (tables.map (·.1)) :: (tables.map (·.2)).flatten)

def filledColumn (r : Rules) : Parser Mentions := do
  skipIdentifier
  afterKeyword "AS" r.exprMentions

def orderBy (r : Rules) : Parser Mentions :=
  afterKeywords ["ORDER", "BY"] do
    let order ← orderItems r
    let filled ← given (onlyIf (← has Dialect.orderFill) (keyword? "INTERPOLATE"))
      (given (atSymbol "(")
        (parenthesized (mentionsOf (separatedOrNone (atSymbol ")") (filledColumn r)))))
    pure (order ++ filled)

def offset (r : Rules) : Parser Mentions := do
  let rows ← r.exprMentions
  let _ ← anyKeyword? ["ROW", "ROWS"]
  pure rows

/-- A limit after its keyword, which has not been written; no limit is written for `ALL`. -/
def limitValue (r : Rules) : Parser Mentions := do
  if ← unwritten (keyword? "ALL") then pure []
  else
    writeText "LIMIT"
    r.exprMentions

/-- A limit is mentioned and written before an offset, except in the form with a comma. -/
def limits (r : Rules) : Parser Mentions := do
  let d ← dialect
  let offsetFirst ← atKeyword "OFFSET"
  let (skipped, offsetWording) ← apart (afterKeyword "OFFSET" (offset r))
  if ← unwritten (keyword? "LIMIT") then
    let every ← atKeyword "ALL"
    let limit ← limitValue r
    if ← onlyIf (d.limitComma && !offsetFirst && !every) (symbol? ",") then
      pure (limit ++ (← r.exprMentions))
    else
      let (parts, partsWording) ← apart (given (onlyIf d.limitBy (keyword? "BY")) r.exprs)
      writeAll offsetWording
      let late ← given (onlyIf (!offsetFirst) (keyword? "OFFSET")) (offset r)
      writeAll partsWording
      pure (limit ++ skipped ++ late ++ parts)
  else
    writeAll offsetWording
    pure skipped

def fetch : Parser Unit :=
  ifNext (keyword? "FETCH") do
    let _ ← unwritten (anyKeyword? ["FIRST", "NEXT"])
    writeText "FIRST"
    if ← unwritten (oneKeyword? ["ROW", "ROWS"]) then pure ()
    else
      value
      let _ ← keyword? "PERCENT"
      quietly (unwritten (anyKeyword? ["ROW", "ROWS"]))
    writeText "ROWS"
    if ← anyPhrase? [["ONLY"], ["WITH", "TIES"]] then pure () else writeText "ONLY"

def formatName : Parser Unit :=
  tightParens do
    let name ← unwritten literalText
    writeText ("'" ++ name ++ "'")

/-- An option of a result format behind its comma, by its word; the comma may stand alone. -/
def formatOption (words : List String) : Parser String := do
  writeSymbol ","
  match ← anyKeyword? words with
  | some "BINARY" =>
      expectKeyword "BASE64"
      pure "BINARY"
  | some "ROOT" =>
      formatName
      pure "ROOT"
  | some word => pure word
  | none => pure ""

/-- Options of a result format.  They are written in the order of their words, the last one of
each. -/
def formatOptions (words : List String) : Parser Unit := do
  let options ← loop (fun options => do
    if ← unwritten (symbol? ",") then pure ((← apart (formatOption words)) :: options, true)
    else pure (options, false)) []
  words.forM fun word => writeAll ((options.lookup word).getD [])

def resultFormat : Parser Bool := do
  if ← keyword? "XML" then
    match ← expectAnyKeyword ["RAW", "AUTO", "EXPLICIT", "PATH"] with
    | "RAW" | "PATH" => ifNext (atSymbol "(") formatName
    | _ => pure ()
    formatOptions ["BINARY", "TYPE", "ROOT", "ELEMENTS"]
    pure true
  else if ← keyword? "JSON" then
    let _ ← expectAnyKeyword ["AUTO", "PATH"]
    formatOptions ["ROOT", "INCLUDE_NULL_VALUES", "WITHOUT_ARRAY_WRAPPER"]
    pure true
  else keyword? "BROWSE"

def lock (r : Rules) : Parser Unit := do
  let _ ← expectAnyKeyword ["UPDATE", "SHARE"]
  ifNext (keyword? "OF") (anyName r)
  quietly (anyPhrase? [["NOWAIT"], ["SKIP", "LOCKED"]])

def formatsAndLocks (r : Rules) : Parser Unit :=
  repeatedly do
    if ← keyword? "FOR" then
      if ← resultFormat then pure false
      else
        lock r
        pure true
    else pure false

def outputFormat? : Parser Unit := do
  ifNext (onlyIf (← has Dialect.querySettings) (keyword? "FORMAT")) skipIdentifier

/-! ## The whole query -/

def parseUnbound (r : Rules) : Parser Mentions := do
  let body ← r.queryBody 0
  let order ← orderBy r
  let limit ← limits r
  let settings ← Factor.settings? r
  fetch
  formatsAndLocks r
  outputFormat?
  let piped ← Pipe.steps r
  pure (body ++ order ++ limit ++ settings.getD [] ++ piped)

end Query

end TableLineage.Sql
