import Mathlib.Data.List.Nodup
import TableLineage.Proofs.Export.Csv
import TableLineage.Proofs.Export.Objects

/-!
# Grouping of tables by database

The map is given by its keys and a function on them: the objects of the
resolved records at their first places, and under each of them the tables of
its records at theirs.  The order of the rows and what further records do to
them are read off from this form.
-/

namespace TableLineage.Export

open Lineage

def objectOf? (resolved : ResolvedRecord) : Option String :=
  resolved.tables.map fun _ => objectName resolved.record

def objectsOf (records : List ResolvedRecord) : List String := records.filterMap objectOf?

def tablesUnder (object : String) (records : List ResolvedRecord) : List String :=
  (records.filter fun resolved => objectName resolved.record = object).flatMap
    fun resolved => resolved.tables.getD []

theorem mem_objectsOf {object : String} {records : List ResolvedRecord} :
    object ∈ objectsOf records ↔ ∃ resolved ∈ records, ∃ tables,
      resolved.tables = some tables ∧ objectName resolved.record = object := by
  simp [objectsOf, objectOf?]

theorem objectsOf_append (records further : List ResolvedRecord) :
    objectsOf (records ++ further) = objectsOf records ++ objectsOf further :=
  List.filterMap_append

theorem objectsOf_singleton (resolved : ResolvedRecord) :
    objectsOf [resolved] = (objectOf? resolved).toList := by
  cases h : objectOf? resolved <;> simp [objectsOf, h]

theorem tablesUnder_append (object : String) (records further : List ResolvedRecord) :
    tablesUnder object (records ++ further) =
      tablesUnder object records ++ tablesUnder object further := by
  rw [tablesUnder, List.filter_append, List.flatMap_append, tablesUnder, tablesUnder]

theorem tablesUnder_singleton (object : String) (resolved : ResolvedRecord) :
    tablesUnder object [resolved] =
      if objectName resolved.record = object then resolved.tables.getD [] else [] := by
  by_cases h : objectName resolved.record = object <;> simp [tablesUnder, h]

theorem tablesUnder_eq_nil {object : String} {records : List ResolvedRecord}
    (h : object ∉ objectsOf records) : tablesUnder object records = [] := by
  rw [tablesUnder, List.flatMap_eq_nil_iff]
  intro resolved hresolved
  obtain ⟨hmem, hobject⟩ := List.mem_filter.mp hresolved
  cases htables : resolved.tables with
  | none => rfl
  | some tables =>
      have hobject : objectName resolved.record = object := of_decide_eq_true hobject
      exact absurd (mem_objectsOf.mpr ⟨resolved, hmem, tables, htables, hobject⟩) h

def grouped (records : List ResolvedRecord) : UsedTables :=
  (Ordered.firstSeen (objectsOf records)).map fun object =>
    (object, Ordered.firstSeen (tablesUnder object records))

theorem addRecord_grouped (records : List ResolvedRecord) (resolved : ResolvedRecord) :
    addRecord (grouped records) resolved = grouped (records ++ [resolved]) := by
  rw [addRecord, grouped, grouped, objectsOf_append, objectsOf_singleton, objectOf?]
  cases htables : resolved.tables with
  | none => simp [tablesUnder_append, tablesUnder_singleton, htables]
  | some tables =>
      -- under a new object nothing was listed before
      have hnew : objectName resolved.record ∉ Ordered.firstSeen (objectsOf records) →
          Ordered.firstSeen (tablesUnder (objectName resolved.record) records) = [] := by
        intro hmem
        rw [tablesUnder_eq_nil (mt Ordered.mem_firstSeen.mpr hmem)]
        rfl
      dsimp only [Option.map_some, Option.toList_some]
      rw [Ordered.update_map (Ordered.nodup_firstSeen _) hnew, Ordered.firstSeen_concat]
      refine List.map_congr_left fun object _ => ?_
      rw [tablesUnder_append, tablesUnder_singleton, htables, Option.getD_some]
      split
      · next hobject => rw [if_pos hobject.symm, Ordered.firstSeen_append]
      · next hobject => rw [if_neg (Ne.symm hobject), List.append_nil]

theorem usedTables_eq_grouped (records : List ResolvedRecord) :
    usedTables records = grouped records := by
  induction records using List.reverseRecOn with
  | nil => rfl
  | append_singleton records resolved ih =>
      rw [usedTables, List.foldl_append, ← usedTables, ih]
      exact addRecord_grouped records resolved

theorem UsedTables.nodup_pairs {used : UsedTables} (hkeys : (used.map Prod.fst).Nodup)
    (hsets : ∀ entry ∈ used, entry.2.Nodup) : used.pairs.Nodup := by
  rw [UsedTables.pairs, List.nodup_flatMap]
  refine ⟨fun entry hentry => (hsets entry hentry).map fun _ _ h => (Prod.mk.inj h).2, ?_⟩
  refine (List.pairwise_map.mp hkeys).imp fun hobject => ?_
  intro pair hfirst hsecond
  obtain ⟨_, -, rfl⟩ := List.mem_map.mp hfirst
  obtain ⟨_, -, hpair⟩ := List.mem_map.mp hsecond
  exact hobject (Prod.mk.inj hpair).1.symm

theorem nodup_pairs_usedTables (records : List ResolvedRecord) :
    (usedTables records).pairs.Nodup := by
  refine UsedTables.nodup_pairs (nodup_keys_usedTables records) ?_
  rw [usedTables_eq_grouped, grouped, List.forall_mem_map]
  exact fun object _ => Ordered.nodup_firstSeen _

theorem getElem?_usedTables_append {records : List ResolvedRecord} {i : Nat} {object : String}
    {tables : List String} (h : (usedTables records)[i]? = some (object, tables))
    (further : List ResolvedRecord) :
    ∃ more, (usedTables (records ++ further))[i]? = some (object, tables ++ more) := by
  rw [usedTables_eq_grouped, grouped, List.getElem?_map, Option.map_eq_some_iff] at h
  obtain ⟨object, hplace, heq⟩ := h
  cases heq
  obtain ⟨objects, hobjects⟩ :=
    Ordered.firstSeen_prefix_append (objectsOf records) (objectsOf further)
  obtain ⟨more, hmore⟩ := Ordered.firstSeen_prefix_append (tablesUnder object records)
    (tablesUnder object further)
  refine ⟨more, ?_⟩
  rw [usedTables_eq_grouped, grouped, objectsOf_append, ← hobjects, List.getElem?_map,
    List.getElem?_append_left (List.getElem?_eq_some_iff.mp hplace).1, hplace, Option.map_some,
    tablesUnder_append, hmore]

/-! ## Main result -/

/-- Grouping keeps the order of objects and tables, and what further records add stands behind
what is there. -/
theorem usedTables_grouping (records : List ResolvedRecord) :
    usedTables records = (objectsOf records).eraseDups.map (fun object =>
      (object, (tablesUnder object records).eraseDups)) ∧
    Csv.records? (usedTables records).csv.toList = some (["object".toList, "table".toList] ::
      (usedTables records).pairs.map fun (object, table) => [object.toList, table.toList]) ∧
    (usedTables records).pairs.Nodup ∧
    (∀ object table, (object, table) ∈ (usedTables records).pairs ↔
      ∃ resolved ∈ records, ∃ tables, resolved.tables = some tables ∧
        object = objectName resolved.record ∧ table ∈ tables) ∧
    ∀ (further : List ResolvedRecord) (i : Nat) (object : String) (tables : List String),
      (usedTables records)[i]? = some (object, tables) →
        ∃ more, (usedTables (records ++ further))[i]? = some (object, tables ++ more) := by
  refine ⟨?_, Csv.records?_of_isFile (isFile_csv _), nodup_pairs_usedTables records,
    fun _ _ => mem_pairs_usedTables,
    fun further i object tables h => getElem?_usedTables_append h further⟩
  rw [usedTables_eq_grouped, grouped, Ordered.firstSeen_eq_eraseDups]
  exact List.map_congr_left fun object _ => by rw [Ordered.firstSeen_eq_eraseDups]

/-- A table that is read again later stands behind those of its own database. -/
theorem usedTables_grouping_interleaved :
    (usedTables [readingOf "srv" "a" "x", readingOf "srv" "b" "y"])[0]? = some ("srv.a", ["x"]) ∧
    ∃ more, (usedTables ([readingOf "srv" "a" "x", readingOf "srv" "b" "y"] ++
      [readingOf "srv" "a" "z"]))[0]? = some ("srv.a", ["x"] ++ more) := by
  have hplace : (usedTables [readingOf "srv" "a" "x", readingOf "srv" "b" "y"])[0]? =
      some ("srv.a", ["x"]) := by decide
  exact ⟨hplace, (usedTables_grouping _).2.2.2.2 _ 0 "srv.a" ["x"] hplace⟩

/-- What is not resolved is left out; what reads nothing is not. -/
example :
    usedTables [{ readingOf "srv" "c" "" with tables := some [] }, readingOf "srv" "a" "x",
      { readingOf "srv" "d" "" with tables := none }, readingOf "srv" "b" "y",
      { readingOf "srv" "a" "" with tables := some ["z", "x"] }] =
    [("srv.c", []), ("srv.a", ["x", "z"]), ("srv.b", ["y"])] := by
  decide

end TableLineage.Export
