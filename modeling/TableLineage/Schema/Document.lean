import TableLineage.Text.Split

/-!
# The data model of a template

Only what is needed to trace the sources of tables is kept of the document.
Every part may be missing.
-/

namespace TableLineage.Schema

/-- The source of a partition, by lines or as one text. -/
inductive Expression
  | listed (lines : List String)
  | whole (text : String)
deriving DecidableEq, Repr

def Expression.toLines : Expression → List (List Char)
  | .listed lines => lines.map String.toList
  | .whole text => Text.lines text.toList

structure Source where
  kind : Option String := none
  expression : Option Expression := none
deriving DecidableEq, Repr

structure Partition where
  name : Option String := none
  mode : Option String := none
  source : Option Source := none
deriving DecidableEq, Repr

structure Table where
  name : Option String := none
  partitions : Option (List Partition) := none
  /-- The table carries a hidden mark, whatever its value. -/
  marked : Bool := false
deriving DecidableEq, Repr

structure Model where
  tables : Option (List Table) := none
deriving DecidableEq, Repr

structure Document where
  model : Option Model := none
deriving DecidableEq, Repr

def Document.tables? (document : Document) : Option (List Table) :=
  document.model.bind Model.tables

end TableLineage.Schema
