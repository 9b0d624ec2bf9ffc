import Mathlib.Data.List.Perm.Basic
import Mathlib.Data.List.Range
import Mathlib.Data.Option.Basic
import TableLineage.Lineage.Resolution
import TableLineage.Proofs.Text.Blank

/-!
# Records resolved in any order

There is a task for every record, and tasks complete in any order.  Each puts
its result into a slot of its own, which nobody else writes.
`resolveAll_anyOrder`: what stands in the slots after all of them is the list
that is got by resolving one record after the other, and a slot depends on
nothing but its own record and the answer to the query of this record.
-/

namespace TableLineage.Lineage

section Tasks

variable {resolver : Resolver} {records : List Record} {slots slots' : Slots}

/-- The task at a place, which has not completed before, resolves its record. -/
inductive Completes (resolver : Resolver) (records : List Record) (place : Nat) (slots : Slots) :
    Slots → Prop
  | intro {record : Record} :
      records[place]? = some record → slots[place]? = some none →
        Completes resolver records place slots
          (slots.set place (some (resolveRecord resolver record)))

/-- Tasks complete one after the other. -/
inductive CompletesAll (resolver : Resolver) (records : List Record) :
    List Nat → Slots → Slots → Prop
  | nil (slots : Slots) : CompletesAll resolver records [] slots slots
  | cons {place : Nat} {order : List Nat} {slots slots' slots'' : Slots} :
      Completes resolver records place slots slots' →
        CompletesAll resolver records order slots' slots'' →
          CompletesAll resolver records (place :: order) slots slots''

/-- The slot of a task that has completed. -/
def filledSlot? (resolver : Resolver) (records : List Record) (place : Nat) :
    Option (Option ResolvedRecord) :=
  records[place]?.map fun record => some (resolveRecord resolver record)

theorem Completes.slot_empty {place : Nat} (h : Completes resolver records place slots slots') :
    slots[place]? = some none := by
  cases h with
  | intro _ hempty => exact hempty

theorem Completes.getElem?_eq {place : Nat} (h : Completes resolver records place slots slots')
    (other : Nat) :
    slots'[other]? =
      if other = place then filledSlot? resolver records place else slots[other]? := by
  cases h with
  | intro hrecord hempty =>
      obtain ⟨hlt, -⟩ := List.getElem?_eq_some_iff.mp hempty
      rw [List.getElem?_set, if_pos hlt]
      split
      · next hplace => rw [if_pos hplace.symm, filledSlot?, hrecord, Option.map_some]
      · next hplace => rw [if_neg (Ne.symm hplace)]

theorem filledSlot?_ne (place : Nat) : filledSlot? resolver records place ≠ some none := by
  rw [filledSlot?]
  cases records[place]? <;> simp

theorem exists_completes (resolver : Resolver) {place : Nat} {record : Record}
    (hrecord : records[place]? = some record) (hempty : slots[place]? = some none) :
    ∃ slots', Completes resolver records place slots slots' :=
  ⟨_, .intro hrecord hempty⟩

theorem CompletesAll.getElem?_eq {order : List Nat}
    (h : CompletesAll resolver records order slots slots') (place : Nat) :
    slots'[place]? =
      if place ∈ order then filledSlot? resolver records place else slots[place]? := by
  induction h with
  | nil slots => rw [if_neg List.not_mem_nil]
  | @cons first order slots slots₁ slots₂ hfirst _ ih =>
      rw [ih, hfirst.getElem?_eq]
      by_cases hplace : place = first
      · subst hplace
        simp
      · simp [hplace]

theorem CompletesAll.nodup {order : List Nat}
    (h : CompletesAll resolver records order slots slots') :
    order.Nodup ∧ ∀ place ∈ order, slots[place]? = some none := by
  induction h with
  | nil slots => exact ⟨List.nodup_nil, List.forall_mem_nil _⟩
  | @cons first order slots slots₁ slots₂ hfirst _ ih =>
      obtain ⟨hnodup, hempty⟩ := ih
      have hother : ∀ place ∈ order, place ≠ first ∧ slots[place]? = some none := by
        intro place hmem
        have hslot := hempty place hmem
        rw [hfirst.getElem?_eq] at hslot
        split at hslot
        · exact absurd hslot (filledSlot?_ne first)
        · next hne => exact ⟨hne, hslot⟩
      refine ⟨List.nodup_cons.mpr ⟨fun hmem => (hother first hmem).1 rfl, hnodup⟩, ?_⟩
      exact List.forall_mem_cons.mpr ⟨hfirst.slot_empty, fun place hmem => (hother place hmem).2⟩

theorem exists_completesAll (resolver : Resolver) {order : List Nat} (hnodup : order.Nodup)
    (hempty : ∀ place ∈ order, slots[place]? = some none)
    (hrecord : ∀ place ∈ order, place < records.length) :
    ∃ slots', CompletesAll resolver records order slots slots' := by
  induction order generalizing slots with
  | nil => exact ⟨slots, .nil slots⟩
  | cons first order ih =>
      rw [List.nodup_cons] at hnodup
      rw [List.forall_mem_cons] at hempty hrecord
      obtain ⟨slots₁, hfirst⟩ :=
        exists_completes resolver (List.getElem?_eq_getElem hrecord.1) hempty.1
      have hempty₁ : ∀ place ∈ order, slots₁[place]? = some none := by
        intro place hmem
        have hne : place ≠ first := fun heq => hnodup.1 (heq ▸ hmem)
        rw [hfirst.getElem?_eq, if_neg hne]
        exact hempty.2 place hmem
      obtain ⟨slots₂, hrest⟩ := ih hnodup.2 hempty₁ hrecord.2
      exact ⟨slots₂, .cons hfirst hrest⟩

theorem getElem?_emptySlots (place : Nat) :
    (emptySlots records)[place]? = some none ↔ place < records.length := by
  rw [emptySlots, List.getElem?_map]
  by_cases hplace : place < records.length <;> simp [hplace]

theorem getElem?_resolveAll (place : Nat) :
    ((resolveAll resolver records).map some)[place]? = filledSlot? resolver records place := by
  rw [resolveAll, List.map_map, List.getElem?_map, filledSlot?]
  rfl

theorem CompletesAll.eq_filled {order : List Nat}
    (h : CompletesAll resolver records order (emptySlots records) slots)
    (hmem : ∀ place, place ∈ order ↔ place < records.length) :
    slots = (resolveAll resolver records).map some := by
  refine List.ext_getElem? fun place => ?_
  rw [getElem?_resolveAll, h.getElem?_eq]
  split
  · rfl
  · next hplace =>
      rw [hmem, Nat.not_lt] at hplace
      simp [filledSlot?, emptySlots, hplace]

/-- All slots are filled exactly when every task has completed once, and then they hold what
resolving one record after the other gives. -/
theorem completesAll_filled_iff {order : List Nat} {results : List ResolvedRecord} :
    CompletesAll resolver records order (emptySlots records) (results.map some) ↔
      order.Perm (List.range records.length) ∧ results = resolveAll resolver records := by
  constructor
  · intro h
    obtain ⟨hnodup, hempty⟩ := h.nodup
    have hmem (place : Nat) : place ∈ order ↔ place < records.length := by
      refine ⟨fun hmem => (getElem?_emptySlots place).mp (hempty place hmem), fun hlt => ?_⟩
      by_contra hmem
      have hplace := h.getElem?_eq place
      rw [if_neg hmem, (getElem?_emptySlots place).mpr hlt, List.getElem?_map] at hplace
      simp at hplace
    refine ⟨?_, List.map_injective_iff.mpr (Option.some_injective _) (h.eq_filled hmem)⟩
    rw [List.perm_ext_iff_of_nodup hnodup List.nodup_range]
    simpa using hmem
  · rintro ⟨hperm, rfl⟩
    have hmem (place : Nat) : place ∈ order ↔ place < records.length :=
      hperm.mem_iff.trans List.mem_range
    obtain ⟨slots, h⟩ := exists_completesAll resolver (hperm.nodup_iff.mpr List.nodup_range)
      (fun place hplace => (getElem?_emptySlots place).mpr ((hmem place).mp hplace))
      (fun place hplace => (hmem place).mp hplace)
    exact h.eq_filled hmem ▸ h

theorem CompletesAll.eq_foldl {order : List Nat}
    (h : CompletesAll resolver records order slots slots') :
    slots' = order.foldl (complete resolver records) slots := by
  induction h with
  | nil slots => rfl
  | cons hfirst _ ih =>
      cases hfirst with
      | intro hrecord hempty => rw [ih, List.foldl_cons, complete, hrecord]

theorem resolveSideBySide_eq (schedule : Schedule) (resolver : Resolver) (records : List Record) :
    resolveSideBySide schedule resolver records = resolveAll resolver records := by
  have hfilled := completesAll_filled_iff.mpr
    ⟨schedule.perm records.length, Eq.refl (resolveAll resolver records)⟩
  rw [resolveSideBySide, ← hfilled.eq_foldl, List.filterMap_map]
  exact List.filterMap_some

end Tasks

theorem isBlankText_iff {text : String} : isBlankText text = true ↔ Text.trim text.toList = [] := by
  rw [isBlankText, List.all_eq_true, Text.trim_eq_nil_iff, Text.AllBlank]

theorem resolveRecord_eq (resolver : Resolver) (record : Record) :
    resolveRecord resolver record =
      ⟨record, if Text.trim record.query.toList = [] then none else resolver record.query⟩ := by
  rw [resolveRecord]
  simp only [isBlankText_iff]

theorem resolveRecord_congr {resolver resolver' : Resolver} {record : Record}
    (h : Text.trim record.query.toList ≠ [] → resolver record.query = resolver' record.query) :
    resolveRecord resolver record = resolveRecord resolver' record := by
  rw [resolveRecord_eq, resolveRecord_eq]
  split
  · rfl
  · next hblank => rw [h hblank]

/-! ## Main result -/

theorem resolveAll_anyOrder (resolver : Sql.Dialect → Resolver) (dialect : Sql.Dialect)
    (records : List Record) :
    (∀ order slots, CompletesAll (resolver dialect) records order (emptySlots records) slots →
      ∀ place, slots[place]? = if place ∈ order then filledSlot? (resolver dialect) records place
        else (emptySlots records)[place]?) ∧
    (∀ order results,
      CompletesAll (resolver dialect) records order (emptySlots records) (results.map some) ↔
        order.Perm (List.range records.length) ∧
          results = resolveAll (resolver dialect) records) ∧
    (resolveAll (resolver dialect) records).length = records.length ∧
    (∀ (place : Nat) (record : Record), records[place]? = some record →
      ∃ resolved, (resolveAll (resolver dialect) records)[place]? = some resolved ∧
        resolved.record = record ∧
        resolved.tables = if Text.trim record.query.toList = [] then none
          else resolver dialect record.query) ∧
    ∀ (resolver' : Sql.Dialect → Resolver) (records' : List Record) (place : Nat),
      records[place]? = records'[place]? →
      (∀ record, records[place]? = some record → Text.trim record.query.toList ≠ [] →
        resolver dialect record.query = resolver' dialect record.query) →
      (resolveAll (resolver dialect) records)[place]? =
        (resolveAll (resolver' dialect) records')[place]? := by
  refine ⟨fun _ _ h => h.getElem?_eq, fun _ _ => completesAll_filled_iff, List.length_map ..,
    ?_, ?_⟩
  · intro place record hrecord
    refine ⟨resolveRecord (resolver dialect) record, ?_, rfl, ?_⟩
    · rw [resolveAll, List.getElem?_map, hrecord, Option.map_some]
    · rw [resolveRecord_eq]
  · intro resolver' records' place hrecords hanswers
    rw [resolveAll, resolveAll, List.getElem?_map, List.getElem?_map, ← hrecords]
    cases hrecord : records[place]? with
    | none => rfl
    | some record =>
        rw [Option.map_some, Option.map_some, resolveRecord_congr (hanswers record hrecord)]

/-- The last task completes first; a query is not understood, and a blank one is not asked
about. -/
theorem resolveAll_anyOrder_blank :
    CompletesAll (fun query => if query = "q" then none else some [query])
      [⟨"A", "", "", "", "t", false⟩, ⟨"B", "", "", "", "q", false⟩,
        ⟨"C", "", "", "", "\u3000\n", false⟩] [2, 0, 1]
      (emptySlots [⟨"A", "", "", "", "t", false⟩, ⟨"B", "", "", "", "q", false⟩,
        ⟨"C", "", "", "", "\u3000\n", false⟩])
      ([⟨⟨"A", "", "", "", "t", false⟩, some ["t"]⟩, ⟨⟨"B", "", "", "", "q", false⟩, none⟩,
        ⟨⟨"C", "", "", "", "\u3000\n", false⟩, none⟩].map some) :=
  ((resolveAll_anyOrder (fun _ query => if query = "q" then none else some [query]) .tsql
    [⟨"A", "", "", "", "t", false⟩, ⟨"B", "", "", "", "q", false⟩,
      ⟨"C", "", "", "", "\u3000\n", false⟩]).2.1 [2, 0, 1] _).mpr
    ⟨by decide, by decide⟩

end TableLineage.Lineage
