import TableLineage.Sql.Grammar.Expression

/-!
# Tables made of expressions

Rows of values, unnested arrays and the functions that read documents stand in
a `FROM` clause like tables.  Each of them mentions what its arguments mention.
-/

namespace TableLineage.Sql

open Sql.Parser

namespace Factor

def plain (aliased : Bool) (mentions : Mentions) : Factor :=
  { isNestedJoin := false, aliased, mentions }

def aliasColumn (r : Rules) : Parser Unit := do
  skipIdentifier
  quietly (attempt r.wholeType)

def aliasColumns? (r : Rules) : Parser Unit :=
  ifNext (symbol? "(") do
    let _ ← separated (aliasColumn r)
    expectSymbol ")"

def alias? (r : Rules) : Parser Bool := do
  if ← Sql.alias? tableAliasAllowed then
    aliasColumns? r
    pure true
  else pure false

def named (r : Rules) (mentions : Mentions) : Parser Factor := do
  pure (plain (← alias? r) mentions)

def exprWithAlias (r : Rules) : Parser Mentions := do
  let e ← r.exprMentions
  ifNext (keyword? "AS") skipIdentifier
  pure e

def settings? (r : Rules) : Parser (Option Mentions) := do
  if ← onlyIf (← has Dialect.querySettings) (keyword? "SETTINGS") then
    let values ← mentionsOf (separated do
      skipIdentifier
      expectSymbol "="
      r.exprMentions)
    pure (some values)
  else pure none

/-- A row of values, and whether it is marked as one; the mark is not written. -/
def valueRow (r : Rules) (allowEmpty : Bool) : Parser (Bool × Mentions) := do
  let marked ← unwritten (keyword? "ROW")
  let values ← parenthesized do
    if ← onlyIf allowEmpty (atSymbol ")") then pure [] else r.exprs
  pure (marked, values)

def valueRows (r : Rules) (allowEmpty : Bool) : Parser Mentions := do
  let (rows, _) ← apart (separated (apart (valueRow r allowEmpty)))
  let marked := rows.any fun row => row.1.1
  writeRows marked (rows.map fun row => row.2)
  pure (rows.flatMap fun row => row.1.2)
where
  writeRows (marked : Bool) : List Wording → Parser Unit
    | [] => pure ()
    | row :: rows => do
        if marked then write (.opening "ROW") *> write .joint else pure ()
        writeAll row
        if rows.isEmpty then pure () else writeSymbol ","
        writeRows marked rows

def values (r : Rules) : Parser Factor := do
  writeSymbol "("
  writeText "VALUES"
  let rows ← valueRows r false
  writeSymbol ")"
  named r rows

def unnest (r : Rules) : Parser Factor := do
  let arrays ← tightParens r.exprs
  let _ ← keywords? ["WITH", "ORDINALITY"]
  let table ← named r arrays
  ifNext (keyword? "WITH")
    (ifNext (keyword? "OFFSET") (quietly (aliasBut? columnAliasReserved)))
  pure table

/-- What a column holds where its path finds nothing or fails, by the word for that. -/
def fallback? : Parser String := do
  if ← oneKeyword? ["NULL", "ERROR"] then occasion
  else if ← keyword? "DEFAULT" then
    value
    occasion
  else pure ""
where
  occasion : Parser String := do
    expectKeyword "ON"
    expectAnyKeyword ["EMPTY", "ERROR"]

def fallbacks : Parser Unit := do
  let read ← loop (fun read => do
    let fallback ← apart fallback?
    pure (fallback :: read, fallback.1 != "")) []
  ["EMPTY", "ERROR"].forM fun occasion => writeAll ((read.lookup occasion).getD [])

def jsonColumn (r : Rules) : Nat → Parser Mentions
  | 0 => fail
  | budget + 1 => do
      if ← keyword? "NESTED" then
        let _ ← unwritten (keyword? "PATH")
        writeText "PATH"
        value
        expectKeyword "COLUMNS"
        parenthesized (mentionsOf (separated (jsonColumn r budget)))
      else
        skipIdentifier
        if ← keyword? "FOR" then
          expectKeyword "ORDINALITY"
          pure []
        else
          let type ← r.wholeType
          let _ ← keyword? "EXISTS"
          expectKeyword "PATH"
          value
          fallbacks
          pure type

def jsonTable (r : Rules) : Parser Factor := do
  let document ← tightParens do
    let document ← r.exprMentions
    expectSymbol ","
    value
    expectKeyword "COLUMNS"
    let columns ← tightParens (mentionsOf (separated (jsonColumn r (← env).steps)))
    pure (document ++ columns)
  named r document

def openJsonColumn (r : Rules) : Parser Mentions := do
  skipIdentifier
  let type ← r.wholeType
  let _ ← singleString?
  ifNext (keyword? "AS") (expectKeyword "JSON")
  pure type

def openJson (r : Rules) : Parser Factor := do
  let document ← tightParens do
    let document ← r.exprMentions
    ifNext (symbol? ",") value
    pure document
  let columns ← afterKeyword "WITH" (parenthesized (mentionsOf (separated (openJsonColumn r))))
  named r (document ++ columns)

def xmlColumn (r : Rules) : Parser Mentions := do
  skipIdentifier
  if ← keyword? "FOR" then
    expectKeyword "ORDINALITY"
    pure []
  else
    let type ← r.wholeType
    let path ← afterKeyword "PATH" r.exprMentions
    let filler ← afterKeyword "DEFAULT" r.exprMentions
    if ← keywords? ["NOT", "NULL"] then pure () else quietly (unwritten (keyword? "NULL"))
    pure (type ++ path ++ filler)

def xmlNamespace (r : Rules) : Parser Mentions := do
  let uri ← r.exprMentions
  expectKeyword "AS"
  skipIdentifier
  pure uri

/-- A document that is passed in; `BY` may stand without the word it needs. -/
def xmlArgument (r : Rules) : Parser Mentions := do
  if ← keywords? ["BY", "VALUE"] then pure () else quietly (unwritten (keyword? "BY"))
  exprWithAlias r

def xmlTable (r : Rules) : Parser Factor := do
  let mentions ← tightParens do
    let namespaces ← afterKeyword "XMLNAMESPACES" do
      let uris ← tightParens (mentionsOf (separated (xmlNamespace r)))
      expectSymbol ","
      pure uris
    let rows ← r.exprMentions
    let passed ← afterKeyword "PASSING" (mentionsOf (separated (xmlArgument r)))
    expectKeyword "COLUMNS"
    let columns ← mentionsOf (separated (xmlColumn r))
    pure (namespaces ++ rows ++ passed ++ columns)
  named r mentions

/-! ## Semantic views -/

def semanticWords : List String := ["DIMENSIONS", "METRICS", "FACTS", "WHERE"]

def semanticClause (r : Rules) : Parser (String × Mentions) := do
  let word ← expectAnyKeyword semanticWords
  if word == "WHERE" then pure (word, ← r.exprMentions)
  else pure (word, ← mentionsOf (separated do pure (← wildcardOrExpr r).mentions))

/-- The clauses of a semantic view with their wordings, each of which may come once. -/
def semanticClauses (r : Rules) : Parser (List (String × Mentions × Wording)) :=
  loop (fun clauses => do
    if ← atSymbol ")" then pure (clauses, false)
    else
      let ((word, mentions), wording) ← apart (semanticClause r)
      require (clauses.lookup word).isNone
      pure ((word, mentions, wording) :: clauses, true)) []

/-- The view is named but is no relation of the query.  Its clauses count in an order of their
own. -/
def semanticView (r : Rules) : Parser Factor := do
  let mentions ← tightParens do
    let _ ← objectName r true
    let clauses ← semanticClauses r
    let ordered := semanticWords.filterMap fun word => clauses.lookup word
    ordered.forM fun clause => writeAll clause.2
    pure (ordered.flatMap fun clause => clause.1)
  named r mentions

end Factor

end TableLineage.Sql
