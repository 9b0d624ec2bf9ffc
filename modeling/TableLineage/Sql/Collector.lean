import TableLineage.Sql.Mention

/-!
# Collecting relations on a walk

A collector is called at every event of a walk and keeps the names that were
bound and the relations that were met.  A `WITH` may stand behind a relation
that it binds, so bound names are left out only at the end.
-/

namespace TableLineage.Sql

structure Collector where
  bound : List String
  /-- Each relation once, at the place of its first visit. -/
  relations : List String
deriving DecidableEq, Repr

namespace Collector

def start : Collector := ⟨[], []⟩

def visit (collector : Collector) : Mention → Collector
  | .commonTables aliases => { collector with bound := collector.bound ++ aliases }
  | .relation name =>
      { collector with relations := Ordered.add collector.relations (tableName name) }

def visitAll (collector : Collector) (mentions : Mentions) : Collector :=
  mentions.foldl visit collector

def walk (collector : Collector) (statements : List Statement) : Collector :=
  statements.foldl (fun collector statement => collector.visitAll statement.mentions) collector

def tables (collector : Collector) : List String :=
  collector.relations.filter fun name =>
    !collector.bound.any fun other => equalIgnoringAsciiCase other name

end Collector

end TableLineage.Sql
