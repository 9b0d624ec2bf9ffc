import TableLineage.Sql.Grammar.Table

/-!
# Selects

A select mentions what its items mention before its tables, and its tables
before the clauses that follow them.
-/

namespace TableLineage.Sql

open Sql.Parser

namespace Select

def endsItems : Parser Bool := do
  let d ← dialect
  match ← ahead with
  | [] => pure true
  | ⟨.symbol text, _⟩ :: _ => pure ([")", ";", "]", "\x7d"].contains text)
  | ⟨.word word, _⟩ :: after => pure (!columnAliasAllowed d word.keyword after)
  | _ => pure false

def isFromWord (form : ExprForm) : Bool :=
  match form with
  | .name ident => ident.quote.isNone && Text.lowercase ident.value.toList == "from".toList
  | _ => false

/-- An item of a select.  The root operator is not written before a wildcard. -/
def item (r : Rules) : Parser Mentions := do
  let d ← dialect
  let (_, root) ← apart (onlyIf d.connectByRoot (keyword? "CONNECT_BY_ROOT"))
  let (e, wording) ← apart (wildcardOrExpr r)
  match e.form with
  | .wildcard | .qualifiedWildcard =>
      writeAll wording
      wildcardOptions r
  | form =>
      require !(isFromWord form)
      if d.aliasByEquals && form == .nameEquals then pure e.mentions
      else if ← onlyIf d.wildcardAfterExpression (unwritten (symbols? [".", "*"])) then
        writeAll wording
        write (.closing ".*")
        pure (e.mentions ++ (← wildcardOptions r))
      else
        writeAll root
        writeAll wording
        let _ ← columnAlias?
        pure e.mentions

def items (r : Rules) : Parser Mentions := do
  let ends := if (← dialect).trailingCommaProjection then endsItems else pure false
  mentionsOf (separatedUntil ends (item r))

def duplicateRows (r : Rules) : Parser Mentions := do
  let every ← unwritten (keyword? "ALL")
  if ← keyword? "DISTINCT" then
    require !every
    afterKeyword "ON" (parenthesized (mentionsOf (separatedOrNone (atSymbol ")") r.exprMentions)))
  else pure []

def top (r : Rules) : Parser Mentions := do
  let quantity ←
    if ← atSymbol "(" then parenthesized r.exprMentions else silently wholeNumber
  let _ ← keyword? "PERCENT"
  let _ ← keywords? ["WITH", "TIES"]
  pure quantity

def valueTable : Parser Unit := do
  let marked := anyPhrase?
    [["DISTINCT", "AS", "VALUE"], ["DISTINCT", "AS", "STRUCT"], ["AS", "VALUE"],
      ["ALL", "AS", "VALUE"], ["AS", "STRUCT"], ["ALL", "AS", "STRUCT"]]
  if ← has Dialect.valueTables then
    if ← marked then pure () else require !(← atKeyword "AS")
  else pure ()

def into (r : Rules) : Parser Unit := do
  ifNext (unwritten (oneKeyword? ["TEMP", "TEMPORARY"])) (writeText "TEMPORARY")
  let _ ← keyword? "UNLOGGED"
  let _ ← keyword? "TABLE"
  anyName r

/-- A grouping set: several expressions in parentheses, or a single one where that is allowed, which
is then written without any. -/
def groupingSet (r : Rules) (allowSingle : Bool) : Parser Mentions := do
  if ← unwritten (symbol? "(") then
    let (items, wording) ← apart (separatedOrNone (atSymbol ")") r.exprMentions)
    require (← unwritten (symbol? ")"))
    writeEnclosed (!allowSingle || items.length != 1) wording
    pure items.flatten
  else
    require allowSingle
    r.exprMentions

def enclosedSet (r : Rules) : Parser Mentions := do
  if ← atSymbol "(" then groupingSet r false
  else
    let (mentions, wording) ← apart r.exprMentions
    writeEnclosed true wording
    pure mentions

def groupItem (r : Rules) : Parser Mentions := do
  let d ← dialect
  if ← onlyIf d.groupingKeywords (keywords? ["GROUPING", "SETS"]) then
    parenthesized (listed (groupingSet r false))
  else if ← onlyIf d.groupingKeywords (oneKeyword? ["CUBE", "ROLLUP"]) then
    parenthesized (listed (groupingSet r true))
  else if ← onlyIf d.groupingKeywords (symbols? ["(", ")"]) then pure []
  else r.exprMentions

def groupModifiers : Parser Unit := do
  if ← has Dialect.groupByModifier then
    repeatedly do
      if ← keyword? "WITH" then
        let _ ← expectAnyKeyword ["ROLLUP", "CUBE", "TOTALS"]
        pure true
      else pure false
  else pure ()

def groupBy (r : Rules) : Parser Mentions :=
  afterKeywords ["GROUP", "BY"] do
    let items ← if ← keyword? "ALL" then pure [] else listed (groupItem r)
    groupModifiers
    let sets ← afterKeywords ["GROUPING", "SETS"] (parenthesized (listed (enclosedSet r)))
    pure (items ++ sets)

def namedWindow (r : Rules) : Parser Mentions := do
  skipIdentifier
  expectKeyword "AS"
  if ← symbol? "(" then windowSpec r
  else
    require (← has Dialect.namedWindowReference)
    silently skipIdentifier

def windows (r : Rules) : Parser Mentions := afterKeyword "WINDOW" (listed (namedWindow r))

def qualify (r : Rules) : Parser Mentions := afterKeyword "QUALIFY" r.exprMentions

/-- Windows and the filter on them come in either order; windows are mentioned first. -/
def windowsAndQualify (r : Rules) : Parser Mentions := do
  if ← atKeyword "WINDOW" then
    let named ← windows r
    pure (named ++ (← qualify r))
  else
    let filter ← qualify r
    pure ((← windows r) ++ filter)

def connections (r : Rules) : Parser Mentions := do
  expectKeywords ["CONNECT", "BY"]
  within .connectBy r.exprs

def start (r : Rules) : Parser Mentions := do
  expectKeywords ["START", "WITH"]
  r.exprMentions

/-- Where a hierarchy starts and how its rows connect, in either order; the start comes first. -/
def connectBy (r : Rules) : Parser Mentions := do
  if ← onlyIf (← has Dialect.connectBy) (atAnyKeyword ["START", "CONNECT"]) then
    if ← atKeywords ["CONNECT", "BY"] then
      let (connected, wording) ← apart (connections r)
      let started ← start r
      writeAll wording
      pure (started ++ connected)
    else
      let started ← start r
      pure (started ++ (← connections r))
  else pure []

/-! ## The whole select -/

/-- The aliases of the columns of a lateral view, which are written behind one word for all. -/
def lateralColumns : Parser Unit := do
  let reserved := notReserved ["WHERE", "GROUP", "CLUSTER", "HAVING", "LATERAL"]
  let (columns, _) ← apart (separated (aliasIdent? reserved))
  let columns := columns.filterMap id
  if columns.isEmpty then pure ()
  else
    writeText "AS"
    writeText (", ".intercalate (columns.map Ident.wording))

def lateralViews (r : Rules) : Parser Mentions :=
  repeated do
    if ← keywords? ["LATERAL", "VIEW"] then
      let _ ← keyword? "OUTER"
      let generator ← r.exprMentions
      anyName r
      lateralColumns
      pure (some generator)
    else pure none

def clauses (r : Rules) : Parser Mentions := do
  let views ← lateralViews r
  let early ← given (onlyIf (← has Dialect.preWhere) (keyword? "PREWHERE")) r.exprMentions
  let filter ← afterKeyword "WHERE" r.exprMentions
  let groups ← groupBy r
  let cluster ← afterKeywords ["CLUSTER", "BY"] r.exprs
  let distribute ← afterKeywords ["DISTRIBUTE", "BY"] r.exprs
  let sort ← afterKeywords ["SORT", "BY"] (orderItems r)
  let having ← afterKeyword "HAVING" r.exprMentions
  let windowed ← windowsAndQualify r
  let connected ← connectBy r
  pure (views ++ early ++ filter ++ groups ++ cluster ++ distribute ++ sort ++ having ++
    windowed ++ connected)

/-- A select from its keyword on; `first` holds the tables when they were written before it. -/
def parseFrom (r : Rules) (first : Option Mentions) : Parser Mentions := do
  let d ← dialect
  expectKeyword "SELECT"
  valueTable
  let distinct ← duplicateRows r
  let limit ← afterKeyword "TOP" (top r)
  let selected ← if ← onlyIf d.emptyProjection (atKeyword "FROM") then pure [] else items r
  ifNext (keyword? "INTO") (into r)
  let tables ←
    match first with
    | some tables => pure tables
    | none => afterKeyword "FROM" (Factor.tables r)
  pure (distinct ++ limit ++ selected ++ tables ++ (← clauses r))

/-- A select, whose tables may stand in front where the dialect allows that. -/
def parse (r : Rules) : Parser Mentions := do
  if ← onlyIf (← has Dialect.fromFirst) (keyword? "FROM") then
    let tables ← Factor.tables r
    if ← atKeyword "SELECT" then parseFrom r (some tables) else pure tables
  else parseFrom r none

end Select

end TableLineage.Sql
