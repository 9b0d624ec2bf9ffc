import TableLineage.Proofs.Export.UsedTables

/-!
# Databases of one object

Tables are listed by the text of their host and their database.  The text of
two databases is the same only where one host goes on with what the name of
the other database begins with, and then their tables stand in one list.
-/

namespace TableLineage.Export

open Lineage

def SameDatabase (a b : Record) : Prop := a.host = b.host ∧ a.database = b.database

/-- The host of `a` goes on behind that of `b`, and the database of `b` begins with what it goes
on with. -/
def Overlaps (a b : Record) : Prop :=
  ∃ middle, a.host = b.host ++ "." ++ middle ∧ b.database = middle ++ "." ++ a.database

/-- The tables that are listed for the database of a record. -/
def tablesFor (used : UsedTables) (record : Record) : List String :=
  (Ordered.lookup (objectName record) used).getD []

theorem append_period_inj {first second first' second' : List Char} :
    first ++ '.' :: second = first' ++ '.' :: second' ↔
      (first = first' ∧ second = second') ∨
      (∃ middle, first = first' ++ '.' :: middle ∧ second' = middle ++ '.' :: second) ∨
      ∃ middle, first' = first ++ '.' :: middle ∧ second = middle ++ '.' :: second' := by
  constructor
  · intro h
    obtain ⟨_ | ⟨c, middle⟩, hfirst, hsecond⟩ | ⟨_ | ⟨c, middle⟩, hfirst, hsecond⟩ :=
      List.append_eq_append_iff.mp h
    · rw [List.append_nil] at hfirst
      exact .inl ⟨hfirst.symm, (List.cons.inj hsecond).2⟩
    · obtain ⟨rfl, htail⟩ := List.cons.inj hsecond
      exact .inr (.inr ⟨middle, hfirst, htail⟩)
    · rw [List.append_nil] at hfirst
      exact .inl ⟨hfirst, (List.cons.inj hsecond).2.symm⟩
    · obtain ⟨rfl, htail⟩ := List.cons.inj hsecond
      exact .inr (.inl ⟨middle, hfirst, htail⟩)
  · rintro (⟨rfl, rfl⟩ | ⟨middle, rfl, rfl⟩ | ⟨middle, rfl, rfl⟩)
    · rfl
    · simp
    · simp

theorem toList_objectName (record : Record) :
    (objectName record).toList = record.host.toList ++ '.' :: record.database.toList := by
  simp [objectName]

theorem overlaps_iff {a b : Record} :
    Overlaps a b ↔ ∃ middle, a.host.toList = b.host.toList ++ '.' :: middle ∧
      b.database.toList = middle ++ '.' :: a.database.toList := by
  constructor
  · rintro ⟨middle, hhost, hdatabase⟩
    refine ⟨middle.toList, ?_, ?_⟩
    · simp [hhost]
    · simp [hdatabase]
  · rintro ⟨middle, hhost, hdatabase⟩
    refine ⟨String.ofList middle, ?_, ?_⟩
    · simpa [← String.toList_inj] using hhost
    · simpa [← String.toList_inj] using hdatabase

theorem objectName_eq_iff {a b : Record} :
    objectName a = objectName b ↔ SameDatabase a b ∨ Overlaps a b ∨ Overlaps b a := by
  rw [← String.toList_inj, toList_objectName, toList_objectName, append_period_inj,
    SameDatabase, overlaps_iff, overlaps_iff, String.toList_inj, String.toList_inj]

/-- The period in the middle belongs to the longer host and to the longer database. -/
theorem Overlaps.mem_period {a b : Record} (h : Overlaps a b) :
    '.' ∈ a.host.toList ∧ '.' ∈ b.database.toList := by
  obtain ⟨middle, hhost, hdatabase⟩ := overlaps_iff.mp h
  rw [hhost, hdatabase]
  simp

theorem nodup_keys_addRecord {used : UsedTables} (h : (used.map Prod.fst).Nodup)
    (resolved : ResolvedRecord) : ((addRecord used resolved).map Prod.fst).Nodup := by
  rw [addRecord]
  cases resolved.tables with
  | none => exact h
  | some tables =>
      dsimp only
      rw [Ordered.keys_update]
      exact Ordered.nodup_add h _

theorem nodup_keys_usedTables (records : List ResolvedRecord) :
    ((usedTables records).map Prod.fst).Nodup := by
  induction records using List.reverseRecOn with
  | nil => exact List.nodup_nil
  | append_singleton records resolved ih =>
      rw [usedTables, List.foldl_append, ← usedTables]
      exact nodup_keys_addRecord ih resolved

theorem mem_tablesFor_iff {used : UsedTables} (h : (used.map Prod.fst).Nodup) {record : Record}
    {table : String} : table ∈ tablesFor used record ↔ (objectName record, table) ∈ used.pairs := by
  rw [tablesFor, UsedTables.pairs, List.mem_flatMap]
  constructor
  · intro hmem
    cases hlookup : Ordered.lookup (objectName record) used with
    | none => simp [hlookup] at hmem
    | some tables =>
        rw [hlookup, Option.getD_some] at hmem
        exact ⟨(objectName record, tables), (Ordered.lookup_eq_some_iff h).mp hlookup, by simpa⟩
  · rintro ⟨⟨object, tables⟩, hentry, hmem⟩
    obtain ⟨table', htable', heq⟩ := List.mem_map.mp hmem
    cases heq
    rw [(Ordered.lookup_eq_some_iff h).mpr hentry]
    exact htable'

theorem tablesFor_usedTables (records : List ResolvedRecord) :
    ((usedTables records).map Prod.fst).Nodup ∧
    (∀ a b : Record,
      objectName a = objectName b ↔ SameDatabase a b ∨ Overlaps a b ∨ Overlaps b a) ∧
    (∀ (record : Record) (table : String), table ∈ tablesFor (usedTables records) record ↔
      ∃ resolved ∈ records, ∃ tables, resolved.tables = some tables ∧ table ∈ tables ∧
        (SameDatabase resolved.record record ∨ Overlaps resolved.record record ∨
          Overlaps record resolved.record)) ∧
    ∀ a b : Record, '.' ∉ a.database.toList → '.' ∉ b.database.toList →
      objectName a = objectName b → SameDatabase a b := by
  refine ⟨nodup_keys_usedTables records, fun a b => objectName_eq_iff, fun record table => ?_, ?_⟩
  · rw [mem_tablesFor_iff (nodup_keys_usedTables records), mem_pairs_usedTables]
    refine exists_congr fun resolved => and_congr_right fun _ => exists_congr fun tables =>
      and_congr_right fun _ => ?_
    rw [and_comm, eq_comm, objectName_eq_iff]
  · intro a b ha hb h
    obtain h | h | h := objectName_eq_iff.mp h
    · exact h
    · exact absurd h.mem_period.2 hb
    · exact absurd h.mem_period.2 ha

def readingOf (host database table : String) : ResolvedRecord :=
  ⟨⟨"p", host, database, "", "SELECT 1", false⟩, some [table]⟩

/-- Periods in hosts do no harm where the databases have none. -/
theorem tablesFor_usedTables_hosts :
    '.' ∉ "db".toList ∧
      objectName (readingOf "srv.eu" "db" "x").record =
        objectName (readingOf "srv.eu" "db" "y").record ∧
      SameDatabase (readingOf "srv.eu" "db" "x").record (readingOf "srv.eu" "db" "y").record := by
  have hdatabase : '.' ∉ "db".toList := by decide
  exact ⟨hdatabase, rfl, (tablesFor_usedTables []).2.2.2 _ _ hdatabase hdatabase rfl⟩

/-- The host `a.b` with the database `c` and the host `a` with the database `b.c` are one object. -/
theorem usedTables_overlapping :
    usedTables [readingOf "a.b" "c" "x", readingOf "a" "b.c" "y"] = [("a.b.c", ["x", "y"])] ∧
    ¬ ∀ (records : List ResolvedRecord) (record : Record) (table : String),
      table ∈ tablesFor (usedTables records) record →
        ∃ resolved ∈ records, SameDatabase resolved.record record ∧
          ∃ tables, resolved.tables = some tables ∧ table ∈ tables := by
  have hused : usedTables [readingOf "a.b" "c" "x", readingOf "a" "b.c" "y"] =
      [("a.b.c", ["x", "y"])] := by decide
  refine ⟨hused, fun h => ?_⟩
  have hmem : "x" ∈ tablesFor (usedTables [readingOf "a.b" "c" "x", readingOf "a" "b.c" "y"])
      (readingOf "a" "b.c" "y").record := by decide
  obtain ⟨resolved, hresolved, ⟨hhost, -⟩, tables, htables, htable⟩ := h _ _ _ hmem
  simp only [List.mem_cons, List.not_mem_nil, or_false] at hresolved
  obtain rfl | rfl := hresolved
  · exact absurd hhost (by decide)
  · cases htables
    exact absurd htable (by decide)

end TableLineage.Export
