import TableLineage.Lineage.Extraction
import TableLineage.Proofs.Formula.Literal
import TableLineage.Proofs.Formula.QueryText

/-!
# Partitions yield records on their own account

What is extracted from a document is put together from its partitions in their
order, so a partition that yields a record adds just this record, between
those of the partitions before it and those of the partitions behind it.
-/

namespace TableLineage.Lineage

open Formula Schema Text

theorem argumentText_enquote {call : Call} {index : Nat} {front text : List Char}
    (hfront : AllBlank front) (h : call.argument? index = some (front ++ enquote text)) :
    argumentText call index = .ok (String.ofList text) := by
  rw [argumentText, h]
  dsimp only
  rw [trim_enquote hfront, unquote_enquote]

theorem extractImports_append (first second : List Import) :
    extractImports (first ++ second) =
      ⟨(extractImports first).records ++ (extractImports second).records,
        (extractImports first).warnings ++ (extractImports second).warnings⟩ := by
  simp [extractImports]

theorem extractImports_cons_of_ok {item : Import} {record : Record}
    (h : recordOf item = .ok record) (imports : List Import) :
    extractImports (item :: imports) =
      ⟨record :: (extractImports imports).records, (extractImports imports).warnings⟩ := by
  have hrecord : record? item = some record := by
    rw [record?, h]
    rfl
  have hwarning : warning? item = none := by
    rw [warning?, h]
  simp [extractImports, hrecord, hwarning]

/-- The partition that an import is made of. -/
def partitionOf (name : String) (expression : Expression) : Partition :=
  ⟨some name, some importMode, some ⟨some formulaKind, some expression⟩⟩

theorem import?_partitionOf (table : Option String) (name : String) (expression : Expression) :
    Partition.import? table (partitionOf name expression) = some ⟨table, name, expression⟩ := by
  simp [Partition.import?, partitionOf, Source.formula?]

theorem Table.imports_of_visible {table : Table} {partitions : List Partition}
    (visible : table.marked = false) (hpartitions : table.partitions = some partitions) :
    table.imports = partitions.filterMap (Partition.import? table.name) := by
  simp [Table.imports, Table.eligible, visible, hpartitions]

/-- The imports in front of a partition, and likewise those behind one. -/
def importsBefore (tables : List Table) (table : Table) (before : List Partition) : List Import :=
  importsOf tables ++ before.filterMap (Partition.import? table.name)

def importsAfter (table : Table) (after : List Partition) (tables : List Table) : List Import :=
  after.filterMap (Partition.import? table.name) ++ importsOf tables

theorem importsOf_partition {table : Table} {name : String} {expression : Expression}
    {before after : List Partition} (visible : table.marked = false)
    (hpartitions : table.partitions = some (before ++ partitionOf name expression :: after))
    (tables tables' : List Table) :
    importsOf (tables ++ table :: tables') =
      importsBefore tables table before ++
        ⟨table.name, name, expression⟩ :: importsAfter table after tables' := by
  have htable := Table.imports_of_visible visible hpartitions
  rw [List.filterMap_append, List.filterMap_cons, import?_partitionOf] at htable
  simp [importsOf, htable, importsBefore, importsAfter]

theorem extractDocument_partition {table : Table} {name : String} {expression : Expression}
    {before after : List Partition} {record : Record} (visible : table.marked = false)
    (hpartitions : table.partitions = some (before ++ partitionOf name expression :: after))
    (hrecord : recordOfLines name expression.toLines = .ok record) (tables tables' : List Table) :
    extractDocument ⟨some ⟨some (tables ++ table :: tables')⟩⟩ =
      .ok ⟨(extractImports (importsBefore tables table before)).records ++
          record :: (extractImports (importsAfter table after tables')).records,
        (extractImports (importsBefore tables table before)).warnings ++
          (extractImports (importsAfter table after tables')).warnings⟩ := by
  have hitem : recordOf ⟨table.name, name, expression⟩ = .ok record := hrecord
  have himports : Document.imports? ⟨some ⟨some (tables ++ table :: tables')⟩⟩ =
      some (importsOf (tables ++ table :: tables')) := rfl
  rw [extractDocument, himports, importsOf_partition visible hpartitions]
  dsimp only
  rw [extractImports_append, extractImports_cons_of_ok hitem]

end TableLineage.Lineage
