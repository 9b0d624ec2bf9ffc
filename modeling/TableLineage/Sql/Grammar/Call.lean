import TableLineage.Sql.Grammar.Interval

/-!
# Calls and windows

A call has arguments, clauses among and after them, and possibly a window.  The
mentions of its parts stand in the order of the syntax tree, in which the
`WITHIN GROUP` ordering comes last.
-/

namespace TableLineage.Sql

open Sql.Parser

def orderDirection : Parser Unit := do
  let _ ← anyKeyword? ["ASC", "DESC"]
  quietly (anyPhrase? [["NULLS", "FIRST"], ["NULLS", "LAST"]])

def orderFill (r : Rules) : Parser Mentions := do
  given (onlyIf (← has Dialect.orderFill) (keywords? ["WITH", "FILL"])) do
    let start ← afterKeyword "FROM" r.exprMentions
    let stop ← afterKeyword "TO" r.exprMentions
    let step ← afterKeyword "STEP" r.exprMentions
    pure (start ++ stop ++ step)

def orderItem (r : Rules) : Parser Mentions := do
  let item ← r.exprMentions
  orderDirection
  pure (item ++ (← orderFill r))

def orderItems (r : Rules) : Parser Mentions := mentionsOf (separated (orderItem r))

def indexItem (r : Rules) : Parser Mentions := do
  let item ← r.exprMentions
  if ← atAnyKeyword ["ASC", "DESC", "NULLS", "WITH"] then pure ()
  else quietly (attempt identifier)
  orderDirection
  pure (item ++ (← orderFill r))

def indexItems (r : Rules) : Parser Mentions :=
  parenthesized (mentionsOf (separated (indexItem r)))

def frameBound (r : Rules) : Parser Mentions := do
  if ← keywords? ["CURRENT", "ROW"] then pure []
  else
    let bound ←
      if ← keyword? "UNBOUNDED" then pure []
      else
        match ← peek with
        | some (.string .single _) =>
            writeText "INTERVAL"
            pure (← interval r).mentions
        | _ => r.exprMentions
    let _ ← expectAnyKeyword ["PRECEDING", "FOLLOWING"]
    pure bound

def windowFrame (r : Rules) : Parser Mentions := do
  let _ ← expectAnyKeyword ["ROWS", "RANGE", "GROUPS"]
  if ← keyword? "BETWEEN" then
    let first ← frameBound r
    expectKeyword "AND"
    pure (first ++ (← frameBound r))
  else frameBound r

/-- A window up to its closing parenthesis; it may start with the name of another one. -/
def windowSpec (r : Rules) : Parser Mentions := do
  match ← peek with
  | some (.word word) => if word.isKeyword then pure () else skipIdentifier
  | _ => pure ()
  let partitions ← afterKeywords ["PARTITION", "BY"] r.exprs
  let order ← afterKeywords ["ORDER", "BY"] (orderItems r)
  if ← symbol? ")" then pure (partitions ++ order)
  else
    let frame ← windowFrame r
    expectSymbol ")"
    pure (partitions ++ order ++ frame)

def window? (r : Rules) : Parser Mentions :=
  afterKeyword "OVER" do
    if ← symbol? "(" then windowSpec r
    else
      skipIdentifier
      pure []

inductive PathEnd
  | wildcard (names : List Ident) (rest : List Lexeme)
  | plain
  | broken

def pathEnd (names : List Ident) : List Lexeme → PathEnd
  | ⟨.symbol ".", _⟩ :: ⟨.word word, _⟩ :: rest => pathEnd (word.ident :: names) rest
  | ⟨.symbol ".", _⟩ :: ⟨.string .single text, _⟩ :: rest =>
      pathEnd (⟨text, some '\''⟩ :: names) rest
  | ⟨.symbol ".", _⟩ :: ⟨.symbol "*", _⟩ :: rest => .wildcard names.reverse rest
  | ⟨.symbol ".", _⟩ :: _ => .broken
  | _ => .plain

/-- An expression that may also be a path from its first name to a star. -/
def pathOrExpr (r : Rules) (first : Ident) (after : List Lexeme) : Parser Expr := do
  match pathEnd [first] after with
  | .wildcard names rest =>
      resume rest
      writeText (".".intercalate (names.map Ident.wording ++ ["*"]))
      pure ⟨.qualifiedWildcard, []⟩
  | .plain => r.expr 0
  | .broken => fail

def wildcardOrExpr (r : Rules) : Parser Expr := do
  match ← ahead with
  | ⟨.symbol "*", _⟩ :: rest =>
      resume rest
      writeSymbol "*"
      pure ⟨.wildcard, []⟩
  | ⟨.word word, _⟩ :: rest => pathOrExpr r word.ident rest
  | ⟨.string .single text, _⟩ :: rest => pathOrExpr r ⟨text, some '\''⟩ rest
  | _ => r.expr 0

def nameOrNames : Parser Unit := do
  if ← symbol? "(" then
    identifiers
    expectSymbol ")"
  else skipIdentifier

def renamed : Parser Unit := do
  skipIdentifier
  expectKeyword "AS"
  skipIdentifier

def replacement (r : Rules) : Parser Mentions := do
  let e ← r.exprMentions
  let _ ← keyword? "AS"
  skipIdentifier
  pure e

def wildcardOptions (r : Rules) : Parser Mentions := do
  let d ← dialect
  if ← onlyIf d.wildcardIlike (keyword? "ILIKE") then singleString
  else ifNext (onlyIf d.wildcardExclude (keyword? "EXCLUDE")) nameOrNames
  ifNext (onlyIf d.wildcardExcept (keyword? "EXCEPT")) nameOrNames
  let replaced ← given (onlyIf d.wildcardReplace (keyword? "REPLACE"))
    (parenthesized (mentionsOf (separated (replacement r))))
  ifNext (onlyIf d.wildcardRename (keyword? "RENAME")) do
    if ← symbol? "(" then
      let _ ← separated renamed
      expectSymbol ")"
    else renamed
  pure replaced

def argumentMark : Parser Unit := do
  if ← keyword? "VALUE" then pure ()
  else
    match ← next with
    | some (.symbol text) =>
        require ((← dialect).namedArgumentMarks.contains text)
        writeText text
    | _ => fail

def namedArgument (r : Rules) : Parser Mentions := do
  let name ←
    if ← has Dialect.namedArgumentByExpression then r.exprMentions
    else
      skipIdentifier
      pure []
  argumentMark
  pure (name ++ (← wildcardOrExpr r).mentions)

def argument (r : Rules) : Parser Mentions := do
  match ← attempt (namedArgument r) with
  | some mentions => pure mentions
  | none => pure (← wildcardOrExpr r).mentions

def plainArguments (r : Rules) : Parser Mentions :=
  mentionsOf (separatedOrNone (atSymbol ")") (argument r))

def nullTreatment? : Parser Bool := do
  if ← oneKeyword? ["RESPECT", "IGNORE"] then
    expectKeyword "NULLS"
    pure true
  else pure false

def documentNulls : Parser Unit :=
  quietly (anyPhrase? [["ABSENT", "ON", "NULL"], ["NULL", "ON", "NULL"]])

def documentType (r : Rules) : Parser Mentions := afterKeyword "RETURNING" r.wholeType

def duplicates : Parser Unit := do
  let every ← keyword? "ALL"
  let distinct ← keyword? "DISTINCT"
  require !(every && distinct)

def overflowFiller (r : Rules) : Parser Mentions := do
  match ← peek with
  | some (.word word) =>
      require (word.keyword == "WITH" || word.keyword == "WITHOUT")
      pure []
  | some (.string kind _) =>
      require ([.single, .escaped, .unicode, .national, .hex].contains kind)
      r.exprMentions
  | _ => fail

def overflowClause (r : Rules) : Parser Mentions :=
  afterKeywords ["ON", "OVERFLOW"] do
    if ← keyword? "ERROR" then pure []
    else
      expectKeyword "TRUNCATE"
      let filler ← overflowFiller r
      let _ ← expectAnyKeyword ["WITH", "WITHOUT"]
      expectKeyword "COUNT"
      pure filler

/-- Arguments and their clauses up to the closing parenthesis, and whether a null treatment was
among them.  All clauses are written behind the arguments. -/
def argumentList (r : Rules) : Parser (Mentions × Bool) := do
  let d ← dialect
  let (type, early) ← apart do
    documentNulls
    documentType r
  if ← atSymbol ")" then
    writeAll early
    expectSymbol ")"
    pure (type, false)
  else
    duplicates
    let arguments ← mentionsOf (separated (argument r))
    writeAll early
    let treated ← onlyIf d.nullTreatmentArgument nullTreatment?
    let order ← afterKeywords ["ORDER", "BY"] (orderItems r)
    let limit ← afterKeyword "LIMIT" r.exprMentions
    let bound ← given (onlyIf d.havingArgument (keyword? "HAVING")) do
      let _ ← expectAnyKeyword ["MIN", "MAX"]
      r.exprMentions
    ifNext (onlyIf d.separatorArgument (keyword? "SEPARATOR")) value
    let overflow ← overflowClause r
    documentNulls
    let lateType ← documentType r
    expectSymbol ")"
    pure (arguments ++ type ++ order ++ limit ++ bound ++ overflow ++ lateType, treated)

/-! ## Calls -/

def atSubquery : Parser Bool := atAnyKeyword ["SELECT", "WITH"]

/-- A filter; its keyword, its parenthesis and `WHERE` are each read as far as they come, and
only all three make a filter. -/
def filter? (r : Rules) : Parser Mentions := do
  let opened ← onlyIf (← has Dialect.filterClause) (keyword? "FILTER")
  let opened ← onlyIf opened (symbol? "(")
  given (onlyIf opened (keyword? "WHERE")) do
    let condition ← r.exprMentions
    expectSymbol ")"
    pure condition

def call (r : Rules) : Parser Expr := do
  let d ← dialect
  require (← symbolAs? .tight "(")
  if ← onlyIf d.subqueryArgument atSubquery then
    let subquery ← r.query
    expectSymbol ")"
    pure ⟨.call, subquery⟩
  else
    let (first, treated) ← argumentList r
    let (second, treated) ←
      if ← onlyIf d.parametersBeforeArguments (symbolAs? .tight "(") then argumentList r
      else pure ([], treated)
    let grouped ← afterKeywords ["WITHIN", "GROUP"] (parenthesized do
      expectKeywords ["ORDER", "BY"]
      orderItems r)
    let filter ← filter? r
    if treated then pure () else quietly nullTreatment?
    let window ← window? r
    pure ⟨.call, first ++ second ++ filter ++ window ++ grouped⟩

end TableLineage.Sql
