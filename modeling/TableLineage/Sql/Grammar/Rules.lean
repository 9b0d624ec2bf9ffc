import TableLineage.Sql.Grammar.Basic

/-!
# The productions that call each other

Queries, expressions, types and table factors contain one another.  Each
production is defined over a `Rules` value that supplies the productions one
level further in; closing that recursion is a matter of its own.
-/

namespace TableLineage.Sql

inductive ExprForm
  | name (ident : Ident)
  | path
  | wildcard
  | qualifiedWildcard
  | nameEquals
  | value
  | call
  | subquery
  /-- A field or an element of something that is no name. -/
  | access
  | other
deriving DecidableEq, Repr

structure Expr where
  form : ExprForm
  mentions : Mentions
deriving DecidableEq, Repr

namespace Expr

def of (mentions : Mentions) : Expr := ⟨.other, mentions⟩

def leaf : Expr := ⟨.other, []⟩

def constant : Expr := ⟨.value, []⟩

def isName (e : Expr) : Bool :=
  match e.form with
  | .name _ => true
  | _ => false

def isPath (e : Expr) : Bool :=
  match e.form with
  | .name _ | .path => true
  | _ => false

def isLink (e : Expr) : Bool :=
  match e.form with
  | .name _ | .path | .value | .call | .access => true
  | _ => false

end Expr

inductive TypeForm
  | builtin
  | interval
  | custom
deriving DecidableEq, Repr

/-- `closes` tells that a doubled angle bracket also closed the type around this one. -/
structure TypeName where
  form : TypeForm
  closes : Bool
  mentions : Mentions
deriving DecidableEq, Repr

structure Factor where
  isNestedJoin : Bool
  aliased : Bool
  mentions : Mentions
  /-- The wording behind the place of the alias. -/
  trailing : Wording := []
deriving DecidableEq, Repr

structure Rules where
  statement : Parser Mentions
  query : Parser Mentions
  /-- A query body up to a set operator that binds no tighter than the given strength. -/
  queryBody : Nat → Parser Mentions
  /-- An expression up to an operator that binds no tighter than the given strength. -/
  expr : Nat → Parser Expr
  prefixExpr : Parser Expr
  typeName : Parser TypeName
  /-- The definition of a column. -/
  column : Parser Mentions
  /-- The arguments of a call, none included, without the parentheses. -/
  arguments : Parser Mentions
  factor : Parser Factor
  /-- The joins that hang on a factor, and how many there are. -/
  joins : Parser (Nat × Mentions)

namespace Rules

def exprMentions (r : Rules) : Parser Mentions := do
  pure (← r.expr 0).mentions

def exprs (r : Rules) : Parser Mentions := Parser.mentionsOf (Parser.separated r.exprMentions)

def wholeType (r : Rules) : Parser Mentions := do
  let type ← r.typeName
  if type.closes then Parser.fail else pure type.mentions

end Rules

end TableLineage.Sql
