import TableLineage.Archive.Template
import TableLineage.Lineage.Extraction

/-!
# Lineage of a template

The schema of a template is read out of its archive and then treated like any
other document.
-/

namespace TableLineage.Lineage

open Archive Schema

inductive InputError
  | template (error : TemplateError)
  | document (error : DocumentError)
deriving DecidableEq, Repr

def InputError.message : InputError → String
  | .template error => error.message
  | .document error => error.message

/-- Whether the reading of an input does not just fail but breaks down. -/
def InputError.breaksDown : InputError → Bool
  | .template error => error.breaksDown
  | .document _ => false

def extractTemplate (archive : ByteArray) : Except InputError Extraction :=
  match readSchema archive with
  | .ok text => (extractText text).mapError .document
  | .error error => .error (.template error)

end TableLineage.Lineage
