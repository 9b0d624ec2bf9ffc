import TableLineage.CommandLine.Run
import TableLineage.Proofs.Json.Accepting
import TableLineage.Proofs.Json.Printing
import TableLineage.Proofs.Lineage.Format

/-!
# Printed records are read back

What is printed for records is read back as these records, on one line or
indented.  A record is read as a resolved one without tables, and of a resolved
record the record alone can be read.
-/

namespace TableLineage.Lineage

open Json Json.Reader

def recordFields : List (FieldReader Record) := slots.map fun (name, slot) => slotField name slot

def SetsSlot (depth : Nat) : Slot → Tree → Record → Record → Prop
  | .text fill, tree, record, record' =>
      ∃ text, record' = fill text record ∧ KeepsText depth text tree
  | .flag fill, tree, record, record' =>
      ∃ flag, record' = fill flag record ∧ KeepsFlag depth flag tree

def SetsRecord (depth : Nat) (name : String) (tree : Tree) (record record' : Record) : Prop :=
  ∃ slot, slots.lookup name = some slot ∧ SetsSlot depth slot tree record record'

def KeepsRecordFields : Nat → Record → Tree → Prop :=
  KeepsRecord recordFields SetsRecord blankRecord

theorem takesTree_slot (slot : Slot) (state : Record) :
    TakesTree (slot.read state) fun depth state' tree => SetsSlot depth slot tree state state' := by
  cases slot with
  | text fill => exact takesTree_string.map _
  | flag fill => exact takesTree_boolean.map _

theorem lookup_of_mem_slots {name : String} {slot : Slot} (h : (name, slot) ∈ slots) :
    slots.lookup name = some slot := by
  simp only [slots, List.mem_cons, List.not_mem_nil, or_false, Prod.mk.injEq] at h
  rcases h with ⟨rfl, rfl⟩ | ⟨rfl, rfl⟩ | ⟨rfl, rfl⟩ | ⟨rfl, rfl⟩ | ⟨rfl, rfl⟩ | ⟨rfl, rfl⟩ <;> rfl

theorem mem_slots_of_lookup {name : String} {slot : Slot} (h : slots.lookup name = some slot) :
    (name, slot) ∈ slots := by
  obtain ⟨front, back, heq, -⟩ := List.lookup_eq_some_iff.mp h
  rw [heq]
  exact List.mem_append_right _ List.mem_cons_self

theorem takesTree_plainRecord : TakesTree record KeepsRecordFields := by
  refine Reader.takesTree_record (fun field hfield state => ?_) _ _
  obtain ⟨⟨name, slot⟩, hmem, rfl⟩ := List.mem_map.mp hfield
  refine (takesTree_slot slot state).imp ?_
  rintro depth state' tree ⟨slot', hslot', hset⟩
  cases (lookup_of_mem_slots hmem).symm.trans hslot'
  exact hset

theorem setsSlot_of_ofValue {depth : Nat} {slot : Slot} {a : Value} {state state' : Record}
    (h : slot.ofValue a state = .ok state') : SetsSlot depth slot a.tree state state' := by
  cases slot with
  | text fill =>
      cases a with
      | string text =>
          cases h
          rw [Value.tree]
          exact ⟨text, rfl, .string (spells_escapedText text)⟩
      | _ => cases h
  | flag fill =>
      cases a with
      | boolean flag =>
          cases h
          rw [Value.tree]
          exact ⟨flag, rfl, .boolean⟩
      | _ => cases h

/-- The members of a printed object are read the way they are looked at in the value. -/
theorem folds_of_fillFrom {depth : Nat} {members : List (String × Value)}
    {seen seen' : List String} {state state' : Record}
    (h : fillFrom seen state members = .ok (seen', state'))
    (hplain : ∀ member ∈ members, member.2.Plain) :
    Folds (FieldStep recordFields (SetsRecord depth)) (memberTreesOf members) (seen, state)
      (seen', state') := by
  -- A name that has a slot is that of a field, so that both sides go on in the same way.
  induction members generalizing seen state with
  | nil =>
      cases h
      exact .nil
  | cons member members ih =>
      obtain ⟨name, a⟩ := member
      obtain ⟨hmember, hplain⟩ := List.forall_mem_cons.mp hplain
      rw [memberTreesOf]
      rw [fillFrom] at h
      cases hslot : slots.lookup name with
      | none =>
          rw [hslot] at h
          refine .cons (spells_escapedText name) (.other (fun field hfield => ?_) hmember.valid)
            (ih h hplain)
          obtain ⟨⟨other, slot⟩, hmem, rfl⟩ := List.mem_map.mp hfield
          rintro rfl
          cases hslot.symm.trans (lookup_of_mem_slots hmem)
      | some slot =>
          rw [hslot] at h
          dsimp only at h
          split at h
          · cases h
          · next hseen =>
              cases hfilled : slot.ofValue a state with
              | error fault =>
                  rw [hfilled] at h
                  cases h
              | ok filled =>
                  rw [hfilled] at h
                  have hset : SetsRecord depth name a.tree state filled :=
                    ⟨slot, hslot, setsSlot_of_ofValue hfilled⟩
                  refine .cons (spells_escapedText name)
                    (.field ?_ (by simpa using hseen) hset) (ih h hplain)
                  exact ⟨_, List.mem_map_of_mem (mem_slots_of_lookup hslot), rfl⟩

theorem keepsRecord_of_members {depth : Nat} {members : List (String × Value)} {found : Record}
    (h : recordOfMembers members = .ok found) (hplain : ∀ member ∈ members, member.2.Plain) :
    KeepsRecordFields (depth + 1) found (Value.object members).tree := by
  rw [recordOfMembers] at h
  cases hfilled : fillFrom [] blankRecord members with
  | error fault =>
      rw [hfilled] at h
      cases h
  | ok filled =>
      obtain ⟨seen, state⟩ := filled
      rw [hfilled] at h
      dsimp only at h
      split at h
      · cases h
      · next hmissing =>
          cases h
          rw [Value.tree]
          refine .members (folds_of_fillFrom hfilled hplain) fun field hfield _ => ?_
          obtain ⟨entry, hmem, rfl⟩ := List.mem_map.mp hfield
          simpa [slotField] using List.find?_eq_none.mp hmissing entry hmem

/-- The tables are read at once, and the other members are kept for later. -/
def Gathers (depth : Nat) (name : String) (tree : Tree) (gathered gathered' : Gathered) : Prop :=
  (name = "tables" ∧ gathered.tables = none ∧
    ∃ tables, gathered' = { gathered with tables := some tables } ∧
      Optionally (Each KeepsText depth) tables tree) ∨
  (name ≠ "tables" ∧ ∃ a, gathered' = { gathered with members := (name, a) :: gathered.members } ∧
    Keeps depth a tree)

inductive KeepsResolved : Nat → ResolvedRecord → Tree → Prop
  | object {members : List (List Char × Tree)} {gathered : Gathered} {record : Record} :
      Folds (Gathers depth) members {} gathered →
      recordOfMembers gathered.members.reverse = .ok record →
      KeepsResolved (depth + 1) ⟨record, gathered.tables.join⟩ (.object members)

theorem takesTree_tables : TakesTree (optional (sequence string)) fun depth =>
    Optionally (Each KeepsText depth) := by
  refine takesTree_string.sequence.optional fun depth found h => ?_
  cases h

theorem takesMember_gatherMember : TakesMember gatherMember Gathers := by
  intro name state state' limits s s' start tree t hcolon hblanks hvalue hends hstep hsteps
  have hlength := hcolon.length_le
  rw [List.length_cons] at hlength
  obtain ⟨rfl, hnone, tables, rfl, hfits⟩ | ⟨hname, a, rfl, hkeeps⟩ := hstep
  · have htables : Takes (optional (sequence string)) limits s' tables t :=
      takesTree_tables hblanks hvalue hends hfits (by omega)
    rw [gatherMember, if_pos rfl, hnone, if_neg (by simp)]
    exact .bind (takes_colon hcolon) (.bind htables (.pure _ _))
  · have hread : Takes value limits s' a t :=
      takesTree_value hblanks hvalue hends hkeeps (by omega)
    rw [gatherMember, if_neg hname]
    exact .bind (takes_colon hcolon) (.bind hread (.pure _ _))

theorem takesTree_resolvedRecord : TakesTree resolvedRecord KeepsResolved := by
  intro limits s begin resolved tree t hblanks hvalue _ hkeeps hsteps
  have hlength := hblanks.length_le
  obtain ⟨depth, steps⟩ := limits
  have hsteps : s.length < steps := hsteps
  cases hkeeps with
  | @object depth members gathered record hfolds hrecord =>
      cases hvalue with
      | @object _ s' _ hmembers =>
          rw [List.length_cons] at hlength
          have hlength : s'.length < steps := by omega
          have hread := @takes_members _ ⟨depth, steps⟩ _ _ _ _ takesMember_gatherMember _ _ _
            hfolds hmembers hlength
          refine .bind (takes_peekValue hblanks rfl) ?_
          rw [if_pos rfl]
          refine .objectBody rfl (.bind hread ?_) (.refl _)
          rw [hrecord]
          exact .pure _ _

theorem folds_gathers {depth : Nat} {members : List (String × Value)} {gathered : Gathered}
    (hmembers : ∀ member ∈ members, member.1 ≠ "tables" ∧ Keeps depth member.2 member.2.tree) :
    Folds (Gathers depth) (memberTreesOf members) gathered
      { gathered with members := members.reverse ++ gathered.members } := by
  induction members generalizing gathered with
  | nil => exact .nil
  | cons member members ih =>
      obtain ⟨name, a⟩ := member
      obtain ⟨⟨hname, hkeeps⟩, hmembers⟩ := List.forall_mem_cons.mp hmembers
      have hrest := @ih { gathered with members := (name, a) :: gathered.members } hmembers
      rw [memberTreesOf, List.reverse_cons, List.append_assoc, List.singleton_append]
      exact .cons (spells_escapedText name) (.inr ⟨hname, a, rfl, hkeeps⟩) hrest

section Printed

variable {depth : Nat}

theorem Record.plain_members (record : Record) : ∀ member ∈ record.members, member.2.Plain := by
  simp only [Record.members, List.forall_mem_cons]
  exact ⟨.string, .string, .string, .string, .string, .boolean, by simp⟩

theorem Record.keeps_members (record : Record) : ∀ member ∈ record.members,
    member.1 ≠ "tables" ∧ Keeps depth member.2 member.2.tree := by
  have hstring (text : String) : Keeps depth (.string text) (Value.string text).tree := by
    rw [Value.tree]
    exact keeps_iff.mpr (.scalar (.string (spells_escapedText text)))
  have hboolean (flag : Bool) : Keeps depth (.boolean flag) (Value.boolean flag).tree := by
    rw [Value.tree]
    exact keeps_iff.mpr (.scalar .boolean)
  simp only [Record.members, List.forall_mem_cons]
  exact ⟨⟨by decide, hstring _⟩, ⟨by decide, hstring _⟩, ⟨by decide, hstring _⟩,
    ⟨by decide, hstring _⟩, ⟨by decide, hstring _⟩, ⟨by decide, hboolean _⟩, by simp⟩

theorem plain_tablesValue (tables : Option (List String)) : (tablesValue tables).Plain := by
  cases tables with
  | none => exact .null
  | some tables => exact .array (List.forall_mem_map.mpr fun _ _ => .string)

theorem Record.plain_toValue (record : Record) : record.toValue.Plain :=
  .object record.plain_members

theorem ResolvedRecord.plain_toValue (resolved : ResolvedRecord) : resolved.toValue.Plain := by
  refine .object (List.forall_mem_append.mpr ⟨resolved.record.plain_members, ?_⟩)
  exact List.forall_mem_singleton.mpr (plain_tablesValue resolved.tables)

theorem recordOfMembers_printed (record : Record) : recordOfMembers record.members = .ok record :=
  rfl

theorem optionally_tablesValue (tables : Option (List String)) :
    Optionally (Each KeepsText (depth + 1)) tables (tablesValue tables).tree := by
  cases tables with
  | none =>
      rw [tablesValue, Value.tree]
      exact .inl ⟨rfl, rfl⟩
  | some tables =>
      rw [tablesValue, Value.tree, treesOf_eq_map, List.map_map]
      refine .inr ⟨tables, rfl, .array ?_⟩
      rw [List.forall₂_map_right_iff, List.forall₂_same]
      intro text _
      rw [Function.comp_apply, Value.tree]
      exact .string (spells_escapedText text)

theorem Record.keepsRecord (record : Record) :
    KeepsRecordFields (depth + 1) record record.toValue.tree :=
  keepsRecord_of_members (recordOfMembers_printed record) record.plain_members

theorem ResolvedRecord.keepsRecord (resolved : ResolvedRecord) :
    KeepsRecordFields (depth + 1) resolved.record resolved.toValue.tree := by
  refine keepsRecord_of_members (recordOfMembers_members resolved.record _) ?_
  refine List.forall_mem_append.mpr ⟨resolved.record.plain_members, ?_⟩
  exact List.forall_mem_singleton.mpr (plain_tablesValue resolved.tables)

theorem Record.keepsResolved (record : Record) :
    KeepsResolved (depth + 1) ⟨record, none⟩ record.toValue.tree := by
  have hfolds := @folds_gathers depth _ {} record.keeps_members
  rw [toValue, Value.tree]
  refine .object hfolds ?_
  rw [List.append_nil, List.reverse_reverse, recordOfMembers_printed]

theorem ResolvedRecord.keepsResolved (resolved : ResolvedRecord) :
    KeepsResolved (depth + 2) resolved resolved.toValue.tree := by
  have hfolds := @folds_gathers (depth + 1) _ {} resolved.record.keeps_members
  have htables : Gathers (depth + 1) "tables" (tablesValue resolved.tables).tree
      { members := resolved.record.members.reverse ++ [] }
      { tables := some resolved.tables, members := resolved.record.members.reverse ++ [] } :=
    .inl ⟨rfl, rfl, resolved.tables, rfl, optionally_tablesValue resolved.tables⟩
  have hall := Folds.append_iff.mpr
    ⟨_, hfolds, .cons (spells_escapedText "tables") htables .nil⟩
  rw [toValue, Value.tree, memberTreesOf_eq_map, List.map_append, ← memberTreesOf_eq_map]
  refine .object hall ?_
  rw [List.append_nil, List.reverse_reverse, recordOfMembers_printed]

end Printed

/-! ## Main result -/

open CommandLine

def printedText (pretty : Bool) (a : Value) : List Char := (printedValue pretty a).toList

theorem isTreeOf_printedText (pretty : Bool) {a : Value} (h : a.Plain) :
    a.tree.IsTreeOf (printedText pretty a) := by
  rw [printedText, printedValue]
  cases pretty with
  | true =>
      rw [if_pos rfl, Value.indentedText, String.toList_ofList]
      exact isTreeOf_indented h
  | false =>
      rw [if_neg Bool.false_ne_true, Value.compactText, String.toList_ofList]
      exact isTreeOf_compact h

section ReadBack

variable {α : Type} {p : Reader α} {toValue : α → Value}

def reprinted (p : Reader α) (toValue : α → Value) (pretty : Bool) (text : List Char) :
    Except Failure (List Char) := do
  let a ← ofText p text
  pure (printedText pretty (toValue a))

/-- Printing loses nothing, so that there is no difference between a text that is read and what is
printed for it. -/
structure ReadBack (p : Reader α) (toValue : α → Value) : Prop where
  printed : ∀ pretty a, ofText p (printedText pretty (toValue a)) = .ok a
  again : ∀ pretty text, (reprinted p toValue pretty text >>= ofText p) = ofText p text
  second_pass : ∀ pretty pretty' text,
    (reprinted p toValue pretty text >>= reprinted p toValue pretty') =
      reprinted p toValue pretty' text

theorem readBack_of_printed (h : ∀ pretty a, ofText p (printedText pretty (toValue a)) = .ok a) :
    ReadBack p toValue := by
  refine ⟨h, fun pretty text => ?_, fun pretty pretty' text => ?_⟩
  · rw [reprinted]
    cases ofText p text with
    | error failure => rfl
    | ok a => exact h pretty a
  · rw [reprinted, reprinted]
    cases ofText p text with
    | error failure => rfl
    | ok a =>
        change reprinted p toValue pretty' (printedText pretty (toValue a)) = _
        rw [reprinted, h]

theorem ofText_sequence {β : Type} {q : Reader β} {Fits : Nat → β → Tree → Prop}
    (hq : TakesTree q Fits) (write : α → Value) (see : α → β)
    (hplain : ∀ a, (write a).Plain) (hfits : ∀ a, Fits 126 (see a) (write a).tree) (pretty : Bool)
    (found : List α) :
    ofText (sequence q) (printedText pretty (.array (found.map write))) = .ok (found.map see) := by
  have hlist : (Value.array (found.map write)).Plain :=
    .array (List.forall_mem_map.mpr fun a _ => hplain a)
  refine ofText_of_takes hq.sequence (isTreeOf_printedText pretty hlist) ?_
  rw [Value.tree, treesOf_eq_map, List.map_map]
  refine .array ?_
  rw [List.forall₂_map_left_iff, List.forall₂_map_right_iff, List.forall₂_same]
  exact fun a _ => hfits a

end ReadBack

theorem records_readBack :
    (ReadBack (sequence resolvedRecord) (fun records => (Report.resolved records).toValue) ∧
      ReadBack (sequence record) (fun records => (Report.unresolved records).toValue)) ∧
    (ReadBack resolvedRecord ResolvedRecord.toValue ∧ ReadBack record Record.toValue) ∧
    (∀ (pretty : Bool) (found : Record),
      ofText resolvedRecord (printedText pretty found.toValue) = .ok ⟨found, none⟩) ∧
    (∀ (pretty : Bool) (resolved : ResolvedRecord),
      ofText record (printedText pretty resolved.toValue) = .ok resolved.record) ∧
    (∀ (pretty : Bool) (records : List Record),
      ofText (sequence resolvedRecord) (printedText pretty (Report.unresolved records).toValue) =
        .ok (records.map (⟨·, none⟩))) ∧
    ∀ (pretty : Bool) (records : List ResolvedRecord),
      ofText (sequence record) (printedText pretty (Report.resolved records).toValue) =
        .ok (records.map (·.record)) := by
  have hresolved (pretty : Bool) (records : List ResolvedRecord) :=
    ofText_sequence takesTree_resolvedRecord ResolvedRecord.toValue id
      ResolvedRecord.plain_toValue (fun resolved => resolved.keepsResolved) pretty records
  have hrecords (pretty : Bool) (records : List Record) :=
    ofText_sequence takesTree_plainRecord Record.toValue id Record.plain_toValue
      (fun found => found.keepsRecord) pretty records
  simp only [List.map_id] at hresolved hrecords
  refine ⟨⟨readBack_of_printed hresolved, readBack_of_printed hrecords⟩,
    ⟨readBack_of_printed ?_, readBack_of_printed ?_⟩, ?_, ?_, ?_, ?_⟩
  · exact fun pretty resolved => ofText_of_takes takesTree_resolvedRecord
      (isTreeOf_printedText pretty resolved.plain_toValue) resolved.keepsResolved
  · exact fun pretty found => ofText_of_takes takesTree_plainRecord
      (isTreeOf_printedText pretty found.plain_toValue) found.keepsRecord
  · exact fun pretty found => ofText_of_takes takesTree_resolvedRecord
      (isTreeOf_printedText pretty found.plain_toValue) found.keepsResolved
  · exact fun pretty resolved => ofText_of_takes takesTree_plainRecord
      (isTreeOf_printedText pretty resolved.plain_toValue) resolved.keepsRecord
  · exact ofText_sequence takesTree_resolvedRecord Record.toValue (⟨·, none⟩)
      Record.plain_toValue fun found => found.keepsResolved
  · exact ofText_sequence takesTree_plainRecord ResolvedRecord.toValue (·.record)
      ResolvedRecord.plain_toValue fun resolved => resolved.keepsRecord

end TableLineage.Lineage
