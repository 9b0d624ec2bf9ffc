import Mathlib.Data.List.Forall2
import TableLineage.Proofs.Lineage.Extraction
import TableLineage.Proofs.Lineage.Verdict

/-!
# Every partition has one outcome

A partition yields a record or a warning, is dropped without one, or is not
looked at in the first place.  `extractDocument_outcomes`: what is extracted
from a document is the list of these outcomes, in the order of the partitions.
-/

namespace TableLineage.Lineage

open Formula Schema

/-- The partitions of the tables in their order, each with its table. -/
def placements (tables : List Table) : List (Table × Partition) :=
  tables.flatMap fun table => (table.partitions.getD []).map (table, ·)

/-- The partition is the given import, in a table that is not hidden. -/
structure Selects (place : Table × Partition) (item : Import) : Prop where
  listed : place.1.partitions.isSome
  visible : place.1.marked = false
  table_eq : place.1.name = item.table
  name_eq : place.2.name = some item.name
  mode_eq : place.2.mode = some importMode
  source_eq : place.2.source = some ⟨some formulaKind, some item.expression⟩

def selected? (place : Table × Partition) : Option Import :=
  if place.1.eligible then place.2.import? place.1.name else none

theorem Source.formula?_eq_some_iff {source : Source} {expression : Expression} :
    source.formula? = some expression ↔ source = ⟨some formulaKind, some expression⟩ := by
  obtain ⟨kind, found⟩ := source
  simp [Source.formula?]

theorem import?_eq_some_iff {table : Option String} {partition : Partition} {item : Import} :
    Partition.import? table partition = some item ↔
      table = item.table ∧ partition.name = some item.name ∧ partition.mode = some importMode ∧
        partition.source = some ⟨some formulaKind, some item.expression⟩ := by
  constructor
  · intro h
    rw [Partition.import?] at h
    split at h
    · next hmode =>
        split at h
        · next name expression hname hsource =>
            obtain ⟨source, hsource, hformula⟩ := Option.bind_eq_some_iff.mp hsource
            cases h
            exact ⟨rfl, hname, hmode, Source.formula?_eq_some_iff.mp hformula ▸ hsource⟩
        · contradiction
    · contradiction
  · obtain ⟨name, mode, source⟩ := partition
    rintro ⟨rfl, hname, hmode, hsource⟩
    dsimp only at hname hmode hsource
    subst hname hmode hsource
    exact import?_partitionOf item.table item.name item.expression

theorem selected?_eq_some_iff {place : Table × Partition} {item : Import} :
    selected? place = some item ↔ Selects place item := by
  rw [selected?, Option.ite_none_right_eq_some, import?_eq_some_iff, Table.eligible,
    Bool.and_eq_true, Bool.not_eq_true']
  constructor
  · rintro ⟨⟨listed, visible⟩, table_eq, name_eq, mode_eq, source_eq⟩
    exact ⟨listed, visible, table_eq, name_eq, mode_eq, source_eq⟩
  · intro h
    exact ⟨⟨h.listed, h.visible⟩, h.table_eq, h.name_eq, h.mode_eq, h.source_eq⟩

theorem Table.imports_eq (table : Table) :
    table.imports = ((table.partitions.getD []).map (table, ·)).filterMap selected? := by
  rw [List.filterMap_map, Table.imports]
  split
  · next heligible =>
      refine List.filterMap_congr fun partition _ => ?_
      simp [selected?, heligible]
  · next hineligible => simp [selected?, hineligible]

theorem importsOf_eq (tables : List Table) :
    importsOf tables = (placements tables).filterMap selected? := by
  rw [importsOf, placements, List.filterMap_flatMap]
  exact List.flatMap_congr fun table _ => Table.imports_eq table

inductive Outcome
  | record (record : Record)
  | warning (text : String)
  | dropped
  | passedOver

namespace Outcome

def record? : Outcome → Option Record
  | .record found => some found
  | _ => none

def warning? : Outcome → Option String
  | .warning text => some text
  | _ => none

end Outcome

inductive Ends (place : Table × Partition) : Outcome → Prop
  | record {item : Import} {record : Record} :
      Selects place item → Verdict item.name item.expression.toLines (.ok record) →
        Ends place (.record record)
  | warning {item : Import} {refusal : Refusal} :
      Selects place item → Verdict item.name item.expression.toLines (.error refusal) →
        refusal.isOtherSource = false → Ends place (.warning (warningText item refusal))
  | dropped {item : Import} {found : String} :
      Selects place item →
        Verdict item.name item.expression.toLines (.error (.otherSource found)) →
        Ends place .dropped
  | passedOver : (∀ item, ¬ Selects place item) → Ends place .passedOver

def importOutcome (item : Import) : Outcome :=
  match recordOf item with
  | .ok record => .record record
  | .error refusal =>
      if refusal.isOtherSource then .dropped else .warning (warningText item refusal)

def outcomeOf (place : Table × Partition) : Outcome :=
  match selected? place with
  | none => .passedOver
  | some item => importOutcome item

theorem record?_importOutcome (item : Import) : (importOutcome item).record? = record? item := by
  rw [importOutcome, record?]
  cases recordOf item with
  | ok record => rfl
  | error refusal =>
      dsimp only
      cases refusal.isOtherSource <;> rfl

theorem warning?_importOutcome (item : Import) :
    (importOutcome item).warning? = warning? item := by
  rw [importOutcome, warning?]
  cases recordOf item with
  | ok record => rfl
  | error refusal =>
      dsimp only
      cases refusal.isOtherSource <;> rfl

theorem filterMap_outcomeOf {α : Type} (look : Outcome → Option α)
    (passed : look .passedOver = none) (places : List (Table × Partition)) :
    (places.map outcomeOf).filterMap look =
      (places.filterMap selected?).filterMap fun item => look (importOutcome item) := by
  rw [List.filterMap_map, List.filterMap_filterMap]
  refine List.filterMap_congr fun place _ => ?_
  rw [Function.comp_apply, outcomeOf]
  split
  · next hselected => rw [hselected, passed]; rfl
  · next hselected => rw [hselected]; rfl

theorem extractImports_importsOf (tables : List Table) :
    extractImports (importsOf tables) =
      ⟨((placements tables).map outcomeOf).filterMap Outcome.record?,
        ((placements tables).map outcomeOf).filterMap Outcome.warning?⟩ := by
  rw [filterMap_outcomeOf Outcome.record? rfl, filterMap_outcomeOf Outcome.warning? rfl,
    ← importsOf_eq, extractImports]
  simp only [record?_importOutcome, warning?_importOutcome]

theorem outcomeOf_of_selects {place : Table × Partition} {item : Import}
    (h : Selects place item) : outcomeOf place = importOutcome item := by
  rw [outcomeOf, selected?_eq_some_iff.mpr h]

theorem Ends.outcomeOf_eq {place : Table × Partition} {outcome : Outcome}
    (h : Ends place outcome) : outcomeOf place = outcome := by
  cases h with
  | record hselected hverdict =>
      rw [outcomeOf_of_selects hselected, importOutcome, recordOf, hverdict.recordOfLines_eq]
  | warning hselected hverdict hother =>
      rw [outcomeOf_of_selects hselected, importOutcome, recordOf, hverdict.recordOfLines_eq]
      dsimp only
      rw [hother, if_neg Bool.false_ne_true]
  | dropped hselected hverdict =>
      rw [outcomeOf_of_selects hselected, importOutcome, recordOf, hverdict.recordOfLines_eq]
      rfl
  | passedOver hunselected =>
      have hnone : selected? place = none := by
        rw [Option.eq_none_iff_forall_ne_some]
        exact fun item => mt selected?_eq_some_iff.mp (hunselected item)
      rw [outcomeOf, hnone]

theorem exists_ends (place : Table × Partition) : ∃ outcome, Ends place outcome := by
  by_cases hselected : ∃ item, Selects place item
  · obtain ⟨item, hitem⟩ := hselected
    cases hrecord : recordOfLines item.name item.expression.toLines with
    | ok record => exact ⟨_, .record hitem (recordOfLines_eq_iff.mp hrecord)⟩
    | error refusal =>
        have hverdict := recordOfLines_eq_iff.mp hrecord
        cases refusal with
        | otherSource found => exact ⟨_, .dropped hitem hverdict⟩
        | _ => exact ⟨_, .warning hitem hverdict rfl⟩
  · exact ⟨_, .passedOver (not_exists.mp hselected)⟩

theorem outcomeOf_eq_iff {place : Table × Partition} {outcome : Outcome} :
    outcomeOf place = outcome ↔ Ends place outcome := by
  refine ⟨?_, Ends.outcomeOf_eq⟩
  rintro rfl
  obtain ⟨outcome, houtcome⟩ := exists_ends place
  rwa [houtcome.outcomeOf_eq]

theorem ends_record_iff {place : Table × Partition} :
    (∃ record, Ends place (.record record)) ↔
      ∃ item, Selects place item ∧ Traceable item.expression.toLines := by
  constructor
  · rintro ⟨record, h⟩
    cases h with
    | record hselected hverdict => exact ⟨_, hselected, exists_record_iff.mp ⟨_, hverdict⟩⟩
  · rintro ⟨item, hselected, htraceable⟩
    obtain ⟨record, hverdict⟩ := exists_record_iff.mpr htraceable
    exact ⟨record, .record hselected hverdict⟩

theorem ends_dropped_iff {place : Table × Partition} :
    Ends place .dropped ↔ ∃ item, Selects place item ∧ Foreign item.expression.toLines := by
  constructor
  · intro h
    cases h with
    | dropped hselected hverdict =>
        exact ⟨_, hselected, exists_otherSource_iff.mp ⟨_, hverdict⟩⟩
  · rintro ⟨item, hselected, hforeign⟩
    obtain ⟨found, hverdict⟩ := exists_otherSource_iff.mpr hforeign
    exact .dropped hselected hverdict

theorem ends_passedOver_iff {place : Table × Partition} :
    Ends place .passedOver ↔ ∀ item, ¬ Selects place item := by
  constructor
  · intro h
    cases h with
    | passedOver hunselected => exact hunselected
  · exact .passedOver

/-! ## Main result -/

theorem extractDocument_eq_error_iff {document : Document} {error : DocumentError} :
    extractDocument document = .error error ↔
      error = .missingRoot ∧ (document.model = none ∨ document.model = some ⟨none⟩) := by
  have hroot (h : extractDocument document = .error .missingRoot) :
      extractDocument document = .error error ↔ error = .missingRoot := by
    rw [h, Except.error.injEq, eq_comm]
  obtain ⟨_ | ⟨_ | tables⟩⟩ := document
  · simpa using hroot rfl
  · simpa using hroot rfl
  · have hok : extractDocument ⟨some ⟨some tables⟩⟩ = .ok (extractImports (importsOf tables)) := rfl
    simp [hok]

theorem extractDocument_outcomes :
    (∀ document error, extractDocument document = .error error ↔
      error = .missingRoot ∧ (document.model = none ∨ document.model = some ⟨none⟩)) ∧
    (∀ tables, ∃ outcomes, List.Forall₂ Ends (placements tables) outcomes ∧
      extractDocument ⟨some ⟨some tables⟩⟩ =
        .ok ⟨outcomes.filterMap Outcome.record?, outcomes.filterMap Outcome.warning?⟩) ∧
    (∀ place, (∃! outcome, Ends place outcome) ∧
      ((∃ record, Ends place (.record record)) ↔
        ∃ item, Selects place item ∧ Traceable item.expression.toLines) ∧
      (Ends place .dropped ↔ ∃ item, Selects place item ∧ Foreign item.expression.toLines) ∧
      (Ends place .passedOver ↔ ∀ item, ¬ Selects place item)) ∧
    ∀ first second, ∃ found found', extractDocument ⟨some ⟨some first⟩⟩ = .ok found ∧
      extractDocument ⟨some ⟨some second⟩⟩ = .ok found' ∧
      extractDocument ⟨some ⟨some (first ++ second)⟩⟩ =
        .ok ⟨found.records ++ found'.records, found.warnings ++ found'.warnings⟩ := by
  refine ⟨fun _ _ => extractDocument_eq_error_iff, ?_, ?_, ?_⟩
  · intro tables
    refine ⟨(placements tables).map outcomeOf, ?_, ?_⟩
    · rw [List.forall₂_map_right_iff, List.forall₂_same]
      exact fun place _ => outcomeOf_eq_iff.mp rfl
    · exact congrArg Except.ok (extractImports_importsOf tables)
  · intro place
    refine ⟨⟨outcomeOf place, outcomeOf_eq_iff.mp rfl, ?_⟩, ends_record_iff, ends_dropped_iff,
      ends_passedOver_iff⟩
    intro outcome houtcome
    exact houtcome.outcomeOf_eq.symm
  · intro first second
    refine ⟨_, _, rfl, rfl, ?_⟩
    have himports : importsOf (first ++ second) = importsOf first ++ importsOf second :=
      List.flatMap_append
    rw [← extractImports_append, ← himports]
    rfl

end TableLineage.Lineage
