import TableLineage.Sql.Grammar.RowPattern

/-!
# Tables in a `FROM` clause

A factor is a table, a call, a subquery or a group in parentheses; joins hang
on a factor.  A parenthesis is first read as opening a subquery and, if that
fails, as grouping a join.
-/

namespace TableLineage.Sql

open Sql.Parser

namespace Factor

def aggregateCall (r : Rules) : Parser Mentions := do
  match ← next with
  | some (.word word) =>
      writeText word.text
      let e ← call r
      ifNext (keyword? "AS") skipIdentifier
      pure e.mentions
  | _ => fail

/-- The columns in parentheses, which are not written around a single one, or one without. -/
def pivotColumn (r : Rules) : Parser Mentions := do
  let strength := (← dialect).strength .between
  let column := do pure (← r.expr strength).mentions
  if ← unwritten (symbol? "(") then
    let (columns, wording) ← apart (separated column)
    require (← unwritten (symbol? ")"))
    writeEnclosed (columns.length != 1) wording
    pure columns.flatten
  else column

def pivotValues (r : Rules) : Parser Mentions :=
  parenthesized do
    if ← keyword? "ANY" then afterKeywords ["ORDER", "BY"] (orderItems r)
    else if ← atSubquery then r.query
    else mentionsOf (separated (exprWithAlias r))

def pivot (r : Rules) (table : Factor) : Parser Factor := do
  let mentions ← tightParens do
    let aggregates ← mentionsOf (separated (aggregateCall r))
    expectKeyword "FOR"
    let column ← pivotColumn r
    expectKeyword "IN"
    let source ← pivotValues r
    let filler ← afterKeywords ["DEFAULT", "ON", "NULL"] (parenthesized r.exprMentions)
    pure (aggregates ++ column ++ source ++ filler)
  named r (table.mentions ++ mentions)

def unpivot (r : Rules) (table : Factor) : Parser Factor := do
  let marked ← oneKeyword? ["INCLUDE", "EXCLUDE"]
  if marked then expectKeyword "NULLS" else write .joint
  let mentions ← parenthesized do
    let measure ← r.exprMentions
    expectKeyword "FOR"
    skipIdentifier
    expectKeyword "IN"
    let columns ← parenthesized (mentionsOf (separated (exprWithAlias r)))
    pure (measure ++ columns)
  named r (table.mentions ++ mentions)

def pivots (r : Rules) (table : Factor) : Parser Factor :=
  loop (fun table => do
    match ← anyKeyword? ["PIVOT", "UNPIVOT"] with
    | some "PIVOT" => pure (← pivot r table, true)
    | some _ => pure (← unpivot r table, true)
    | none => pure (table, false)) table

def version? (r : Rules) : Parser Mentions := do
  if ← has Dialect.tableVersions then
    if ← keywords? ["FOR", "SYSTEM_TIME", "AS", "OF"] then r.exprMentions
    else
      given (atAnyKeyword ["AT", "BEFORE"]) do
        let _ ← objectName r true
        pure (← call r).mentions
  else pure []

def tableArguments (r : Rules) : Parser Mentions := do
  if ← symbol? ")" then pure []
  else
    let arguments ← loop (fun read => do
      match ← settings? r with
      | some settings => pure (read ++ settings, false)
      | none =>
          let a ← argument r
          pure (read ++ a, ← symbol? ",")) []
    expectSymbol ")"
    pure arguments

def bucket (r : Rules) : Parser Mentions := do
  numberValue
  expectKeywords ["OUT", "OF"]
  numberValue
  afterKeyword "ON" r.exprMentions

def sampleSize (r : Rules) : Parser Mentions := do
  let size ←
    match ← attempt r.exprMentions with
    | some size => pure size
    | none =>
        match ← next with
        | some (.word word) =>
            writeText word.text
            pure []
        | _ => fail
  let _ ← anyKeyword? ["ROWS", "PERCENT"]
  pure size

def sampleQuantity (r : Rules) : Parser (Bool × Mentions) := do
  if ← atSymbol "(" then parenthesized do
    if ← keyword? "BUCKET" then pure (true, ← bucket r) else pure (false, ← sampleSize r)
  else pure (false, ← sampleSize r)

def sample (r : Rules) : Parser Mentions := do
  let _ ← anyKeyword? ["BERNOULLI", "ROW", "SYSTEM", "BLOCK"]
  let ((isBucket, size), wording) ← apart (sampleQuantity r)
  if isBucket then pure () else writeAll wording
  ifNext (oneKeyword? ["REPEATABLE", "SEED"]) (parenthesized numberValue)
  if isBucket then writeAll wording else pure ()
  pure (size ++ (← afterKeyword "OFFSET" r.exprMentions))

def indexHint? : Parser Bool := do
  let found ← oneKeyword? ["USE", "IGNORE", "FORCE"]
  ifNext (pure found) do
    let _ ← expectAnyKeyword ["INDEX", "KEY"]
    ifNext (keyword? "FOR") (expectPhrase [["JOIN"], ["ORDER", "BY"], ["GROUP", "BY"]])
    quietly (parenthesized (separatedOrNone (atSymbol ")") identifier))
  pure found

/-- Hints of the form `WITH (…)`; a `WITH` that is not followed by a parenthesis stays unread. -/
def hints? (r : Rules) : Parser Mentions := do
  match ← ahead with
  | ⟨.word word, _⟩ :: ⟨.symbol "(", _⟩ :: _ =>
      if word.keyword == "WITH" then
        let _ ← keyword? "WITH"
        parenthesized r.exprs
      else pure []
  | _ => pure []

/-- The hints on a table and the sample of it, between which its version is written. -/
def hintsAndSample (r : Rules) (version : Wording) : Parser (Mentions × Mentions) := do
  if ← has Dialect.indexHints then quietly (attempt (repeatedly indexHint?)) else pure ()
  let hints ← hints? r
  writeAll version
  pure (hints, ← given (oneKeyword? ["TABLESAMPLE", "SAMPLE"]) (sample r))

def namedTable (r : Rules) : Parser Factor := do
  let d ← dialect
  let table ← relation r true
  let path ← given (onlyIf (!d.bracketSubscripts) (atSymbol "[")) (Expr.documentPath r)
  ifNext (onlyIf d.tablePartitions (keyword? "PARTITION")) (parenthesized identifiers)
  let (version, versionWording) ← apart (version? r)
  let arguments ← given (symbolAs? .tight "(") (tableArguments r)
  let _ ← keywords? ["WITH", "ORDINALITY"]
  let aliased ← alias? r
  let ((hints, sample), trailing) ← apart (hintsAndSample r versionWording)
  writeAll trailing
  let mentions := table ++ arguments ++ hints ++ version ++ path ++ sample
  let table ← pivots r { isNestedJoin := false, aliased, mentions, trailing }
  if ← onlyIf d.matchRecognize (keyword? "MATCH_RECOGNIZE") then RowPattern.recognize r table
  else pure table

def derived (r : Rules) : Parser Factor := do
  writeSymbol "("
  let subquery ← r.query
  expectSymbol ")"
  named r subquery

/-- What a parenthesis groups when it opens no subquery: a join, or a lone factor where the
dialect allows that, which then may be given an alias on one side of the parenthesis only.  Around
a lone factor the parentheses are not written. -/
def group (r : Rules) : Parser Factor := do
  let ((first, count, joined), wording) ← apart do
    let first ← r.factor
    pure (first, ← r.joins)
  require (← unwritten (symbol? ")"))
  if 0 < count || first.isNestedJoin then
    writeEnclosed true wording
    pure { isNestedJoin := true, aliased := ← alias? r, mentions := first.mentions ++ joined }
  else
    require (← has Dialect.bareParenthesizedFactor)
    writeAll (wording.drop first.trailing.length)
    let aliased ← alias? r
    require !(aliased && first.aliased)
    writeAll first.trailing
    pure { first with aliased := first.aliased || aliased }

def lateral (r : Rules) : Parser Factor := do
  if ← unwritten (symbol? "(") then derived r
  else
    anyName r
    named r (← tightParens (plainArguments r))

def tableFunction (r : Rules) : Parser Factor := do
  named r (← tightParens r.exprMentions)

/-- Reads a keyword that an opening parenthesis follows; the parenthesis stays unread. -/
def functionWord? (keyword : String) : Parser Bool := do
  if isSymbol "(" (← peekAt 1) then keyword? keyword else pure false

/-- A table factor, given the productions further in. -/
def parse (r : Rules) : Parser Factor := do
  let d ← dialect
  if ← keyword? "LATERAL" then lateral r
  else if ← keyword? "TABLE" then tableFunction r
  else if ← unwritten (symbol? "(") then
    match ← attempt (derived r) with
    | some table => pivots r table
    | none => group r
  else if ← onlyIf d.valuesFactor (unwritten (functionWord? "VALUES")) then values r
  else if ← onlyIf d.unnestFactor (keyword? "UNNEST") then unnest r
  else if ← functionWord? "JSON_TABLE" then jsonTable r
  else if ← functionWord? "OPENJSON" then openJson r
  else if ← functionWord? "XMLTABLE" then xmlTable r
  else if ← onlyIf d.semanticViews (functionWord? "SEMANTIC_VIEW") then semanticView r
  else namedTable r

/-! ## Joins -/

def constraint (r : Rules) (natural : Bool) : Parser Mentions := do
  if natural then pure []
  else if ← keyword? "ON" then r.exprMentions
  else if ← keyword? "USING" then
    tightParens (anyNames r)
    pure []
  else pure []

def crossJoin (r : Rules) : Parser Mentions := do
  match ← anyKeyword? ["JOIN", "APPLY"] with
  | some keyword =>
      let table ← r.factor
      if keyword == "JOIN" && (← has Dialect.crossJoinConstraint) then
        pure (table.mentions ++ (← constraint r false))
      else pure table.mentions
  | none => fail

def asOfJoin (r : Rules) : Parser Mentions := do
  expectKeyword "JOIN"
  let table ← r.factor
  expectKeyword "MATCH_CONDITION"
  let condition ← parenthesized r.exprMentions
  pure (table.mentions ++ condition ++ (← constraint r false))

/-- The words of a join that takes a constraint; false when no join comes next. -/
def joinWords (natural : Bool) : Parser Bool := do
  match ← anyKeyword? ["INNER", "JOIN", "LEFT", "RIGHT", "ANTI", "SEMI", "FULL",
      "STRAIGHT_JOIN"] with
  | some "JOIN" | some "STRAIGHT_JOIN" => pure true
  | some "LEFT" | some "RIGHT" =>
      match ← anyKeyword? ["OUTER", "SEMI", "ANTI", "JOIN"] with
      | some "JOIN" => pure true
      | some _ =>
          expectKeyword "JOIN"
          pure true
      | none => fail
  | some "FULL" =>
      let _ ← unwritten (keyword? "OUTER")
      expectKeyword "JOIN"
      pure true
  | some _ =>
      expectKeyword "JOIN"
      pure true
  | none => if natural then fail else pure false

def startsJoin : Parser Bool := atAnyKeyword ["JOIN", "INNER", "LEFT", "RIGHT", "FULL"]

/-- Where joins nest to the right, a table with joins of its own is written in parentheses. -/
def constrainedJoin (r : Rules) (natural : Bool) : Parser Mentions := do
  let ((table, nests, inner), wording) ← apart do
    let table ← r.factor
    let nests ← onlyIf (← has Dialect.rightNestedJoins) startsJoin
    let inner ← if nests then pure (← r.joins).2 else pure []
    pure (table, nests, inner)
  writeEnclosed nests wording
  pure (table.mentions ++ inner ++ (← constraint r natural))

def join? (r : Rules) : Parser (Option Mentions) := do
  let _ ← keyword? "GLOBAL"
  if ← keyword? "CROSS" then pure (some (← crossJoin r))
  else if ← keyword? "OUTER" then
    expectKeyword "APPLY"
    pure (some (← r.factor).mentions)
  else if ← keyword? "ASOF" then pure (some (← asOfJoin r))
  else
    let natural ← keyword? "NATURAL"
    if ← joinWords natural then pure (some (← constrainedJoin r natural)) else pure none

def parseJoins (r : Rules) : Parser (Nat × Mentions) :=
  loop (fun (count, mentions) => do
    match ← join? r with
    | some joined => pure ((count + 1, mentions ++ joined), true)
    | none => pure ((count, mentions), false)) (0, [])

def withJoins (r : Rules) : Parser Mentions := do
  let table ← r.factor
  let (_, joined) ← r.joins
  pure (table.mentions ++ joined)

def endingWords : List String :=
  ["ALL", "ALTER", "AND", "ANY", "AS", "BETWEEN", "BY", "CHECK", "COLUMN", "CONNECT", "CREATE",
    "CROSS", "CURRENT", "DELETE", "DISTINCT", "DROP", "ELSE", "EXISTS", "FOLLOWING", "FOR", "FROM",
    "FULL", "GRANT", "GROUP", "HAVING", "ILIKE", "IN", "INCREMENT", "INNER", "INSERT", "INTERSECT",
    "INTO", "IS", "JOIN", "LEFT", "LIKE", "MINUS", "NATURAL", "NOT", "NULL", "OF", "ON", "OR",
    "ORDER", "QUALIFY", "REGEXP", "REVOKE", "RIGHT", "RLIKE", "ROW", "ROWS", "SAMPLE", "SELECT",
    "SET", "SOME", "START", "TABLE", "TABLESAMPLE", "THEN", "TO", "TRIGGER", "UNION", "UNIQUE",
    "UPDATE", "USING", "VALUES", "WHEN", "WHENEVER", "WHERE", "WINDOW", "WITH"]

def endsTables : Parser Bool := do
  match ← ahead with
  | [] => pure true
  | ⟨.symbol text, _⟩ :: _ => pure ([")", ";", "]", "\x7d"].contains text)
  | ⟨.word word, _⟩ :: after =>
      match word.keyword with
      | "LIMIT" => pure (startsLimit after)
      | "TABLE" => pure !(isSymbol "(" (headToken after))
      | keyword => pure (endingWords.contains keyword)
  | _ => pure false

def tables (r : Rules) : Parser Mentions := do
  let ends := if (← dialect).trailingCommaFrom then endsTables else pure false
  mentionsOf (separatedUntil ends (withJoins r))

end Factor

end TableLineage.Sql
