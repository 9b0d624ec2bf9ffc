import TableLineage.Schema.Document

/-!
# Partitions with lineage

A table counts unless it lacks partitions or is marked; a partition counts if
it is named, imported, and fed by an expression of the formula language.
-/

namespace TableLineage.Schema

def importMode : String := "import"

def formulaKind : String := "m"

def Table.eligible (table : Table) : Bool := table.partitions.isSome && !table.marked

def Source.formula? (source : Source) : Option Expression :=
  if source.kind = some formulaKind then source.expression else none

/-- A partition that counts, with the name of its table. -/
structure Import where
  table : Option String
  name : String
  expression : Expression
deriving DecidableEq, Repr

def Partition.import? (table : Option String) (partition : Partition) : Option Import :=
  if partition.mode = some importMode then
    match partition.name, partition.source.bind Source.formula? with
    | some name, some expression => some ⟨table, name, expression⟩
    | _, _ => none
  else none

def Table.imports (table : Table) : List Import :=
  if table.eligible then
    (table.partitions.getD []).filterMap (Partition.import? table.name)
  else []

def importsOf (tables : List Table) : List Import := tables.flatMap Table.imports

/-- None where the document has no list of tables. -/
def Document.imports? (document : Document) : Option (List Import) :=
  document.tables?.map importsOf

end TableLineage.Schema
