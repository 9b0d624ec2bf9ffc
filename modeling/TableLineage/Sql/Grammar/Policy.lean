import TableLineage.Sql.Grammar.Phrase

/-!
# Policies

A policy restricts which rows of a table its users see or write; the table is
mentioned before the conditions.
-/

namespace TableLineage.Sql

open Sql.Parser

namespace Policy

/-- The table that a policy is for, after the name of the policy. -/
def table (r : Rules) : Parser Mentions := do
  skipIdentifier
  expectKeyword "ON"
  relation r false

def terms (r : Rules) : Parser Mentions := do
  ifNext (keyword? "TO") identifiers
  let seen ← condition? r ["USING"]
  pure (seen ++ (← condition? r ["WITH", "CHECK"]))

def create (r : Rules) : Parser Mentions := do
  let table ← table r
  ifNext (keyword? "AS") (quietly (expectAnyKeyword ["PERMISSIVE", "RESTRICTIVE"]))
  ifNext (keyword? "FOR")
    (quietly (expectAnyKeyword ["ALL", "SELECT", "INSERT", "UPDATE", "DELETE"]))
  pure (table ++ (← terms r))

def alter (r : Rules) : Parser Mentions := do
  let table ← table r
  if ← keyword? "RENAME" then
    expectKeyword "TO"
    skipIdentifier
    pure table
  else pure (table ++ (← terms r))

def drop (r : Rules) : Parser Mentions := do
  let _ ← ifExists?
  let table ← table r
  dropBehavior?
  pure table

end Policy

end TableLineage.Sql
