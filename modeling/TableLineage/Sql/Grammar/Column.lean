import TableLineage.Sql.Grammar.Phrase
import TableLineage.Sql.Grammar.Select

/-!
# Columns and constraints

A column is a name and a type with options after them.  Options and constraints
mention what their expressions mention; the tables that they refer to are not
read from.
-/

namespace TableLineage.Sql

open Sql.Parser

namespace Column

def referentialAction : Parser Unit :=
  expectPhrase [["RESTRICT"], ["CASCADE"], ["SET", "NULL"], ["NO", "ACTION"], ["SET", "DEFAULT"]]

def referentialActions? : Parser Unit :=
  eachOnce [
    following ["ON", "DELETE"],
    following ["ON", "UPDATE"]]
where
  following (words : List String) : Parser Bool := do
    let found ← keywords? words
    if found then referentialAction else pure ()
    pure found

def traits? : Parser Unit :=
  eachOnce [
    anyPhrase? [["NOT", "DEFERRABLE"], ["DEFERRABLE"]],
    initially?,
    anyPhrase? [["ENFORCED"], ["NOT", "ENFORCED"]]]
where
  initially? : Parser Bool := do
    let found ← keyword? "INITIALLY"
    if found then quietly (expectAnyKeyword ["DEFERRED", "IMMEDIATE"]) else pure ()
    pure found

def references (r : Rules) : Parser Unit := do
  anyName r
  columnList? false
  referentialActions?
  traits?

def sequenceOptions : Parser Unit := do
  ifNext (keyword? "INCREMENT") do
    let _ ← keyword? "BY"
    signedNumber
  if ← keyword? "MINVALUE" then signedNumber else quietly (keywords? ["NO", "MINVALUE"])
  if ← keyword? "MAXVALUE" then signedNumber else quietly (keywords? ["NO", "MAXVALUE"])
  ifNext (keyword? "START") do
    let _ ← keyword? "WITH"
    signedNumber
  ifNext (keyword? "CACHE") signedNumber
  quietly (anyPhrase? [["NO", "CYCLE"], ["CYCLE"]])

def sequenceOptions? : Parser Unit :=
  ifNext (unwritten (symbol? "(")) do
    let (_, wording) ← apart sequenceOptions
    require (← unwritten (symbol? ")"))
    if wording.isEmpty then pure ()
    else
      writeText "("
      writeAll wording
      writeText ")"

def generatedExpr (r : Rules) : Parser Mentions := do
  let e ← parenthesized (within .plain r.exprMentions)
  if ← keyword? "STORED" then pure ()
  else
    require !(← has Dialect.storesGenerated)
    quietly (keyword? "VIRTUAL")
  pure e

/-- What generates a value; words that end in nothing are read, but not written, and make no
option. -/
def generated? (r : Rules) : Parser (Option Mentions) := do
  let (mentions, wording) ← apart do
    expectKeyword "GENERATED"
    if ← anyPhrase? [["ALWAYS", "AS", "IDENTITY"], ["BY", "DEFAULT", "AS", "IDENTITY"]] then
      sequenceOptions?
      pure (some [])
    else if ← keywords? ["ALWAYS", "AS"] then
      if ← atSymbol "(" then pure (some (← generatedExpr r)) else pure none
    else pure none
  if mentions.isSome then writeAll wording else pure ()
  pure mentions

def computed (r : Rules) : Parser Mentions := do
  let e ← parenthesized r.exprMentions
  let _ ← oneKeyword? ["STORED", "VIRTUAL"]
  pure e

def tag (r : Rules) : Parser Unit := do
  anyName r
  require (← symbolAs? .tight "=")
  stringLiteral

def tags (r : Rules) : Parser Unit := quietly (parenthesized (separated (tag r)))

def identity : Parser Unit := do
  if ← atSymbol "(" then tightParens numberPair
  else
    ifNext (keyword? "START") do
      signedNumber
      expectKeyword "INCREMENT"
      signedNumber
  quietly (anyKeyword? ["ORDER", "NOORDER"])

def policies : List (List String) := [["MASKING", "POLICY"], ["PROJECTION", "POLICY"]]

def policyOption? (r : Rules) : Parser Bool := do
  let before ← ahead
  let (_, mark) ← apart (keyword? "WITH")
  if ← oneKeyword? ["IDENTITY", "AUTOINCREMENT"] then
    identity
    pure true
  else if ← anyOf (policies.map atKeywords) then
    writeAll mark
    expectPhrase policies
    anyName r
    ifNext (keyword? "USING") (parenthesized identifiers)
    pure true
  else if ← atKeyword "TAG" then
    writeAll mark
    expectKeyword "TAG"
    tags r
    pure true
  else
    resume before
    pure false

def fleeting (r : Rules) : Parser Mentions := do
  if ← anyOf [atSymbol ",", atSymbol ")"] then pure [] else r.exprMentions

def mute? (r : Rules) : Parser Bool := do
  if ← anyPhrase? [["CHARACTER", "SET"], ["COLLATE"]] then
    anyName r
    pure true
  else if ← anyPhrase? [["NOT", "NULL"], ["NULL"]] then pure true
  else if ← keyword? "COMMENT" then
    commentText
    pure true
  else if ← anyPhrase? [["PRIMARY", "KEY"], ["UNIQUE"]] then
    traits?
    pure true
  else if ← keyword? "REFERENCES" then
    references r
    pure true
  else pure false

def valued? (r : Rules) (d : Dialect) : Parser (Option Mentions) := do
  if ← keyword? "DEFAULT" then pure (some (← r.exprMentions))
  else if ← onlyIf d.derivedColumns (oneKeyword? ["MATERIALIZED", "ALIAS"]) then
    pure (some (← r.exprMentions))
  else if ← onlyIf d.derivedColumns (keyword? "EPHEMERAL") then pure (some (← fleeting r))
  else if ← keyword? "CHECK" then
    pure (some (← parenthesized (within .plain r.exprMentions)))
  else pure none

/-- The options that only some dialects have; most of their words are read in any dialect, and
then make no option. -/
def special? (r : Rules) (d : Dialect) : Parser (Option Mentions) := do
  if ← meant d.extendedColumns (keyword? "AUTO_INCREMENT") then pure (some [])
  else if ← meant d.columnShorthands (keyword? "AUTOINCREMENT") then pure (some [])
  else if ← meant d.columnShorthands (keyword? "ASC") then pure (some [])
  else if ← meant d.columnShorthands (keyword? "DESC") then pure (some [])
  else if ← meant d.extendedColumns (keywords? ["ON", "UPDATE"]) then
    pure (some (← r.exprMentions))
  else if ← atKeyword "GENERATED" then generated? r
  else if ← onlyIf d.optionList (atKeyword "OPTIONS") then pure (some (← options r "OPTIONS"))
  else if ← meant d.extendedColumns (keyword? "AS") then pure (some (← computed r))
  else if ← meant d.extendedColumns (keyword? "SRID") then pure (some (← r.exprMentions))
  else if ← meant d.identityColumns (keyword? "IDENTITY") then
    ifNext (atSymbol "(") (parenthesized numberPair)
    pure (some [])
  else if ← onlyIf d.columnShorthands (keywords? ["ON", "CONFLICT"]) then
    let _ ← expectAnyKeyword ["ROLLBACK", "ABORT", "FAIL", "IGNORE", "REPLACE"]
    pure (some [])
  else pure none

def option? (r : Rules) : Parser (Option Mentions) := do
  let d ← dialect
  if ← onlyIf d.columnPolicies (policyOption? r) then pure (some [])
  else
    within .column do
      if ← mute? r then pure (some [])
      else
        match ← valued? r d with
        | some mentions => pure (some mentions)
        | none => special? r d

def options? (r : Rules) : Parser Mentions := repeated (option? r)

def namedOption? (r : Rules) : Parser (Option Mentions) := do
  if ← keyword? "CONSTRAINT" then
    skipIdentifier
    match ← option? r with
    | some mentions => pure (some mentions)
    | none => fail
  else option? r

/-- The definition of a column, given the productions further in. -/
def parse (r : Rules) : Parser Mentions := do
  skipIdentifier
  let type ← r.wholeType
  pure (type ++ (← repeated (namedOption? r)))

def indexType? : Parser Bool := do
  if ← keyword? "USING" then
    skipIdentifier
    pure true
  else pure false

def indexName? : Parser Unit := quietly (attempt identifier)

def nullsDistinct? : Parser Unit :=
  ifNext (keyword? "NULLS") do
    let _ ← keyword? "NOT"
    expectKeyword "DISTINCT"

def indexOptions? : Parser Unit :=
  repeatedly do
    if ← indexType? then pure true
    else if ← keyword? "COMMENT" then
      stringLiteral
      pure true
    else pure false

def indexBody (r : Rules) : Parser Mentions := do
  let _ ← indexType?
  let items ← indexItems r
  indexOptions?
  pure items

def keyBody (r : Rules) : Parser Mentions := do
  indexName?
  let items ← indexBody r
  traits?
  pure items

def unique (r : Rules) : Parser Mentions := do
  if ← oneKeyword? ["KEY", "INDEX"] then require (← has Dialect.indexConstraints) else pure ()
  nullsDistinct?
  keyBody r

def foreignKey (r : Rules) : Parser Unit := do
  indexName?
  columnList false
  expectKeyword "REFERENCES"
  references r

def check (r : Rules) : Parser Mentions := do
  let e ← parenthesized r.exprMentions
  let _ ← anyPhrase? [["ENFORCED"], ["NOT", "ENFORCED"]]
  pure e

def index? (r : Rules) : Parser (Option Mentions) := do
  if ← oneKeyword? ["INDEX", "KEY"] then
    if ← atKeyword "USING" then pure () else indexName?
    pure (some (← indexBody r))
  else if ← oneKeyword? ["FULLTEXT", "SPATIAL"] then
    let _ ← oneKeyword? ["KEY", "INDEX"]
    indexName?
    pure (some (← indexItems r))
  else pure none

/-- A constraint of a table, if one comes next; one that carries a name has to be there. -/
def constraint? (r : Rules) : Parser (Option Mentions) := do
  let named ← keyword? "CONSTRAINT"
  ifNext (pure named) skipIdentifier
  if ← keyword? "UNIQUE" then pure (some (← unique r))
  else if ← keyword? "PRIMARY" then
    expectKeyword "KEY"
    pure (some (← keyBody r))
  else if ← keyword? "FOREIGN" then
    expectKeyword "KEY"
    foreignKey r
    pure (some [])
  else if ← keyword? "CHECK" then pure (some (← check r))
  else if named then fail
  else if ← has Dialect.indexConstraints then index? r
  else pure none

/-! ## Lists of columns -/

/-- What the elements of a table mention: columns first, whatever their order. -/
structure Elements where
  /-- How many columns there are. -/
  count : Nat
  columns : Mentions
  constraints : Mentions

def Elements.none : Elements := ⟨0, [], []⟩

def Elements.mentions (elements : Elements) : Mentions := elements.columns ++ elements.constraints

def element (r : Rules) (read : Elements) : Parser Elements := do
  match ← constraint? r with
  | some mentions => pure { read with constraints := read.constraints ++ mentions }
  | none =>
      match ← peek with
      | some (.word _) =>
          let column ← r.column
          pure { read with count := read.count + 1, columns := read.columns ++ column }
      | _ => fail

def elements? (r : Rules) : Parser Elements := do
  let trailing ← has Dialect.trailingCommaColumns
  if !(← symbol? "(") then pure .none
  else if ← symbol? ")" then pure .none
  else
    loop (fun read => do
      let read ← element r read
      let comma ← symbol? ","
      if ← onlyIf (!comma || trailing) (symbol? ")") then pure (read, false)
      else
        require comma
        pure (read, true)) .none

end Column

end TableLineage.Sql
