import TableLineage.Formula.Call
import TableLineage.Formula.Navigation
import TableLineage.Formula.QueryText
import TableLineage.Lineage.Record
import TableLineage.Schema.Reading
import TableLineage.Schema.Selection

/-!
# Extraction of lineage

Every partition that counts yields a record or is refused on its own account,
without effect on the others.  A query stands behind the first two arguments of
the call; a call with just these imports a table, which the next line names.
-/

namespace TableLineage.Lineage

open Formula Schema Text

def argumentText (call : Call) (index : Nat) : Except Refusal String :=
  match call.argument? index with
  | some argument => .ok (String.ofList (unquote (trim argument)))
  | none => .error (.missingArgument (index + 1) (trimmed call.text))

def schemaKey : List Char := "schema".toList

def itemKey : List Char := "item".toList

def selectAll (schema item : List Char) : List Char :=
  "SELECT * FROM ".toList ++ schema ++ '.' :: item

/-- The navigation line of a direct import and the query it amounts to. -/
def navigate (lines : List (List Char)) : Except Refusal (List Char × List Char) :=
  match lines[2]? with
  | none => .error .noNavigationLine
  | some line =>
      match bracedFields? line with
      | none => .error (.noNavigationRecord (trimmed line))
      | some fields =>
          match Ordered.lookup schemaKey fields, Ordered.lookup itemKey fields with
          | some schema, some item => .ok (line, selectAll schema item)
          | _, _ => .error (.incompleteNavigation (trimmed line))

def queryOf (lines : List (List Char)) (call : Call) :
    Except Refusal (List Char × List Char) :=
  if call.isDirectImport then navigate lines
  else
    let expression := (call.textAfter? 1).getD []
    .ok (expression, normalizeQuery (quotedSpan expression))

def recordOfLines (name : String) (lines : List (List Char)) : Except Refusal Record := do
  let call ← classify lines
  let host ← argumentText call 0
  let database ← argumentText call 1
  let (expression, query) ← queryOf lines call
  .ok {
    name, host, database
    expression := String.ofList expression
    query := String.ofList query
    isTableDirectImport := call.isDirectImport }

def recordOf (item : Import) : Except Refusal Record :=
  recordOfLines item.name item.expression.toLines

def warningText (item : Import) (refusal : Refusal) : String :=
  let table := item.table.getD ""
  s!"Skipping partition `{item.name}` of table `{table}`: {refusal.message}"

/-- What a partition is reported as if it yields no record; a source of another type is none
of our business. -/
def warning? (item : Import) : Option String :=
  match recordOf item with
  | .ok _ => none
  | .error refusal => if refusal.isOtherSource then none else some (warningText item refusal)

def record? (item : Import) : Option Record := (recordOf item).toOption

structure Extraction where
  records : List Record
  warnings : List String
deriving DecidableEq, Repr

def extractImports (imports : List Import) : Extraction :=
  ⟨imports.filterMap record?, imports.filterMap warning?⟩

def extractDocument (document : Document) : Except DocumentError Extraction :=
  match document.imports? with
  | some imports => .ok (extractImports imports)
  | none => .error .missingRoot

/-- The lineage of a document given as JSON text. -/
def extractText (text : List Char) : Except DocumentError Extraction :=
  match Document.ofText text with
  | .ok document => extractDocument document
  | .error error => .error error

end TableLineage.Lineage
