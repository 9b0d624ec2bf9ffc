import TableLineage.Lineage.Format
import TableLineage.Proofs.Json.Meaning

/-!
# Records that a value shows

A resolved record is read back off the value that it is printed as: the members
give its fields, and a member of their own gives the tables.
-/

namespace TableLineage.Lineage

open Json

def tablesOf? : Value → Option (Option (List String))
  | .null => some none
  | .array items => (items.mapM Value.text?).map some
  | _ => none

def ResolvedRecord.ofValue? : Value → Option ResolvedRecord
  | .object members => do
      let record ← (recordOfMembers members).toOption
      let tables ← (members.lookup "tables").bind tablesOf?
      some ⟨record, tables⟩
  | _ => none

theorem tablesOf?_tablesValue (tables : Option (List String)) :
    tablesOf? (tablesValue tables) = some tables := by
  cases tables with
  | none => rfl
  | some tables => rw [tablesValue, tablesOf?, mapM_text?_iff.mpr rfl, Option.map_some]

/-- A member of another name does not get in the way of the fields. -/
theorem recordOfMembers_members (record : Record) (value : Value) :
    recordOfMembers (record.members ++ [("tables", value)]) = .ok record := by
  rfl

theorem ResolvedRecord.ofValue?_toValue (resolved : ResolvedRecord) :
    ofValue? resolved.toValue = some resolved := by
  have htables : (resolved.record.members ++ [("tables", tablesValue resolved.tables)]).lookup
      "tables" = some (tablesValue resolved.tables) := rfl
  rw [toValue, ofValue?, recordOfMembers_members, htables, Option.bind_some,
    tablesOf?_tablesValue]
  rfl

end TableLineage.Lineage
