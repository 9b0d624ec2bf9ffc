import TableLineage.Sql.Grammar.Name

/-!
# Options

Definitions carry options in parentheses, most of them names with the value of
an expression.  Only what such expressions mention is kept.
-/

namespace TableLineage.Sql

open Sql.Parser

def clusteredOption : Parser Mentions := do
  if ← keywords? ["CLUSTERED", "COLUMNSTORE", "INDEX", "ORDER"] then columnList false
  else if ← keywords? ["CLUSTERED", "COLUMNSTORE", "INDEX"] then pure ()
  else
    expectKeywords ["CLUSTERED", "INDEX"]
    let _ ← parenthesized (separated do
      skipIdentifier
      quietly (anyKeyword? ["ASC", "DESC"]))
  pure []

def partitionOption (r : Rules) : Parser Mentions := do
  expectKeyword "PARTITION"
  parenthesized do
    skipIdentifier
    expectKeyword "RANGE"
    let _ ← anyKeyword? ["LEFT", "RIGHT"]
    expectKeywords ["FOR", "VALUES"]
    parenthesized r.exprs

def namedOption (r : Rules) : Parser Mentions := do
  let storage ← has Dialect.storageOptions
  if ← onlyIf storage (keyword? "HEAP") then pure []
  else if ← onlyIf storage (atKeyword "PARTITION") then partitionOption r
  else if ← onlyIf storage (atKeyword "CLUSTERED") then clusteredOption
  else
    skipIdentifier
    expectSymbol "="
    r.exprMentions

def optionItems (r : Rules) : Parser (List Mentions) :=
  parenthesized (separatedOrNone (atSymbol ")") (namedOption r))

/-- The options that a keyword introduces, if it comes next. -/
def options (r : Rules) (keyword : String) : Parser Mentions :=
  afterKeyword keyword (mentionsOf (optionItems r))

/-- The options that keywords introduce; nothing if there are none, be it that none are listed. -/
def someOptions? (r : Rules) (keywords : List String) : Parser (Option Mentions) := do
  if ← keywords? keywords then
    let items ← optionItems r
    pure (if items.isEmpty then none else some items.flatten)
  else pure none

end TableLineage.Sql
