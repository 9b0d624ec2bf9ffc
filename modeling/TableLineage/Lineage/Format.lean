import TableLineage.Json.Printer
import TableLineage.Json.Reader
import TableLineage.Lineage.Record

/-!
# Records as JSON

A record is an object with its fields in order.  A resolved record is the same
object with the tables as one more member; since the members of both may be
mixed when it is read, the fields of the inner record are only looked at
behind the last of them.
-/

namespace TableLineage.Lineage

open Json Json.Reader

def Record.members (record : Record) : List (String × Value) := [
  ("name", .string record.name),
  ("host", .string record.host),
  ("database", .string record.database),
  ("originalExpression", .string record.expression),
  ("query", .string record.query),
  ("isTableDirectImport", .boolean record.isTableDirectImport)]

def Record.toValue (record : Record) : Value := .object record.members

def tablesValue : Option (List String) → Value
  | none => .null
  | some tables => .array (tables.map .string)

def ResolvedRecord.toValue (resolved : ResolvedRecord) : Value :=
  .object (resolved.record.members ++ [("tables", tablesValue resolved.tables)])

inductive Slot
  | text (fill : String → Record → Record)
  | flag (fill : Bool → Record → Record)

def Slot.read : Slot → Record → Reader Record
  | .text fill, record => do pure (fill (← string) record)
  | .flag fill, record => do pure (fill (← boolean) record)

def Slot.ofValue : Slot → Value → Record → Except Fault Record
  | .text fill, .string found, record => .ok (fill found record)
  | .flag fill, .boolean found, record => .ok (fill found record)
  | .text _, other, _ => .error (.wrongType other.found "a string")
  | .flag _, other, _ => .error (.wrongType other.found "a boolean")

def slots : List (String × Slot) := [
  ("name", .text fun text record => { record with name := text }),
  ("host", .text fun text record => { record with host := text }),
  ("database", .text fun text record => { record with database := text }),
  ("originalExpression", .text fun text record => { record with expression := text }),
  ("query", .text fun text record => { record with query := text }),
  ("isTableDirectImport", .flag fun flag record => { record with isTableDirectImport := flag })]

def blankRecord : Record := ⟨"", "", "", "", "", false⟩

def slotField (name : String) (slot : Slot) : FieldReader Record :=
  { name, read := slot.read, required := true }

def record : Reader Record :=
  Reader.record "LineageRecord" (slots.map fun (name, slot) => slotField name slot) blankRecord

/-- Fills the fields from members; members of other names are of no interest. -/
def fillFrom (seen : List String) (record : Record) :
    List (String × Value) → Except Fault (List String × Record)
  | [] => .ok (seen, record)
  | (name, value) :: members =>
      match slots.lookup name with
      | none => fillFrom seen record members
      | some slot =>
          if seen.contains name then .error (.duplicateField name)
          else
            match slot.ofValue value record with
            | .ok record => fillFrom (name :: seen) record members
            | .error fault => .error fault

def recordOfMembers (members : List (String × Value)) : Except Fault Record :=
  match fillFrom [] blankRecord members with
  | .error fault => .error fault
  | .ok (seen, record) =>
      match slots.find? fun (name, _) => !seen.contains name with
      | some (name, _) => .error (.missingField name)
      | none => .ok record

/-- What is known of a resolved record; the members come last first. -/
structure Gathered where
  tables : Option (Option (List String)) := none
  members : List (String × Value) := []

def gatherMember (name : String) (gathered : Gathered) : Reader Gathered := do
  if name = "tables" then
    if gathered.tables.isSome then failAround (.duplicateField name)
    else
      colon
      let tables ← optional (sequence string)
      pure { gathered with tables := some tables }
  else
    colon
    let found ← value
    pure { gathered with members := (name, found) :: gathered.members }

def resolvedMembers : Reader ResolvedRecord := do
  let gathered ← members gatherMember {}
  match recordOfMembers gathered.members.reverse with
  | .ok record => pure ⟨record, gathered.tables.join⟩
  | .error fault => failAround fault

def resolvedRecord : Reader ResolvedRecord := do
  if (← peekValue) = '\x7b' then objectBody resolvedMembers
  else refuse "struct ResolvedLineage"

end TableLineage.Lineage
