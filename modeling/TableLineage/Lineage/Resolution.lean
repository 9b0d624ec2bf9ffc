import TableLineage.Lineage.Record
import TableLineage.Sql.Parse
import TableLineage.Text.Blank

/-!
# Resolution of records

Every record is resolved by itself, so their order is kept and a query that
cannot be resolved concerns no other.  A blank query is not asked about.
Records may be resolved side by side, each into a slot of its own.
-/

namespace TableLineage.Lineage

/-- Finds the tables a query reads from, where it can be understood. -/
abbrev Resolver := String → Option (List String)

def isBlankText (text : String) : Bool := text.toList.all Text.isBlank

def resolveRecord (resolver : Resolver) (record : Record) : ResolvedRecord :=
  ⟨record, if isBlankText record.query then none else resolver record.query⟩

def resolveAll (resolver : Resolver) (records : List Record) : List ResolvedRecord :=
  records.map (resolveRecord resolver)

abbrev Slots := List (Option ResolvedRecord)

def emptySlots (records : List Record) : Slots := records.map fun _ => none

/-- The order in which tasks complete, by their number. -/
structure Schedule where
  order : Nat → List Nat
  perm (count : Nat) : (order count).Perm (List.range count)

def Schedule.inOrder : Schedule := ⟨List.range, fun _ => .refl _⟩

/-- The task of a record completes. -/
def complete (resolver : Resolver) (records : List Record) (slots : Slots) (place : Nat) : Slots :=
  match records[place]? with
  | some record => slots.set place (some (resolveRecord resolver record))
  | none => slots

def resolveSideBySide (schedule : Schedule) (resolver : Resolver) (records : List Record) :
    List ResolvedRecord :=
  let order := schedule.order records.length
  (order.foldl (complete resolver records) (emptySlots records)).filterMap id

/-- The resolver that reads queries as SQL. -/
def sqlResolver (dialect : Sql.Dialect) : Resolver := Sql.resolve dialect

/-- Whether the reading of SQL breaks down at a query among the records, so that there is no
resolution of any of them. -/
def resolutionBreaksDown (dialect : Sql.Dialect) (records : List Record) : Bool :=
  records.any fun record => !isBlankText record.query && Sql.breaksDown dialect record.query

end TableLineage.Lineage
