import TableLineage.Json.Reader
import TableLineage.Schema.Document

/-!
# Reading the data model

Each part is a record with optional fields.  The mark of a table is kept as a
value of any kind, so it is read under the limits of kept values, and `null`
marks too.
-/

namespace TableLineage.Schema

open Json Json.Reader

def expression : Reader Expression := do
  match ← value with
  | .string text => pure (.whole text)
  | .array items =>
      match items.mapM Value.text? with
      | some lines => pure (.listed lines)
      | none => failAround (.noVariant "Expression")
  | _ => failAround (.noVariant "Expression")

def sourceFields : List (FieldReader Source) := [
  { name := "type", read := fun s => do pure { s with kind := ← optional string } },
  { name := "expression"
    read := fun s => do pure { s with expression := ← optional expression } }]

def source : Reader Source := record "SourceDescriptor" sourceFields {}

def partitionFields : List (FieldReader Partition) := [
  { name := "name", read := fun p => do pure { p with name := ← optional string } },
  { name := "mode", read := fun p => do pure { p with mode := ← optional string } },
  { name := "source", read := fun p => do pure { p with source := ← optional source } }]

def partition : Reader Partition := record "Partition" partitionFields {}

def readMark (table : Table) : Reader Table := do
  let _ ← value
  pure { table with marked := true }

def tableFields : List (FieldReader Table) := [
  { name := "name", read := fun t => do pure { t with name := ← optional string } },
  { name := "partitions"
    read := fun t => do pure { t with partitions := ← optional (sequence partition) } },
  { name := "isHidden", read := readMark, trailing := true }]

def table : Reader Table := record "Table" tableFields {}

def modelFields : List (FieldReader Model) := [
  { name := "tables"
    read := fun m => do pure { m with tables := ← optional (sequence table) } }]

def model : Reader Model := record "Model" modelFields {}

def documentFields : List (FieldReader Document) := [
  { name := "model", read := fun d => do pure { d with model := ← optional model } }]

def document : Reader Document := record "SchemaDocument" documentFields {}

inductive DocumentError
  | missingRoot
  | malformed (failure : Json.Failure)
deriving DecidableEq, Repr

def DocumentError.message : DocumentError → String
  | .missingRoot => "schema document has no `model.tables` list"
  | .malformed failure => "malformed schema document: " ++ failure.message

def Document.ofText (text : List Char) : Except DocumentError Document :=
  match Reader.ofText document text with
  | .ok document => .ok document
  | .error failure => .error (.malformed failure)

end TableLineage.Schema
