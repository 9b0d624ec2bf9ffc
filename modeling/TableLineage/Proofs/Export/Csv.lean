import Mathlib.Data.List.Basic
import TableLineage.Export.Csv
import TableLineage.Export.CsvReader
import TableLineage.Proofs.Export.UsedTables

/-!
# Comma-separated output reads back

The grammar of comma-separated text leaves no choice: `records?_of_isFile` says
that the reader finds the records of every text that has some.  What is written
for a map is such a text, with a record for each pair under the header, so the
pairs and, where no object is empty, the map can be read off it.
-/

namespace TableLineage.Export

namespace Csv

namespace Reading

variable {records : List (List (List Char))} {fields : List (List Char)} {before text : List Char}

@[simp] theorem run_nil (reading : Reading) : reading.run [] = some reading := rfl

@[simp] theorem run_cons (reading : Reading) (c : Char) (text : List Char) :
    reading.run (c :: text) = (reading.next c).bind (·.run text) := by
  simp [run]

theorem run_append (reading : Reading) (text rest : List Char) :
    reading.run (text ++ rest) = (reading.run text).bind (·.run rest) := by
  simp [run]

theorem run_quoted {body value : List Char} (h : Quoted body value) :
    run ⟨records, fields, before, .quoted⟩ body =
      some ⟨records, fields, before ++ value, .quoted⟩ := by
  induction h generalizing before with
  | nil => simp
  | plain hc _ ih => simp [next, push, hc, ih]
  | pair _ ih => simp [next, push, ih]

theorem run_bare (h : ∀ c ∈ text, isBare c = true) :
    run ⟨records, fields, before, .bare⟩ text =
      some ⟨records, fields, before ++ text, .bare⟩ := by
  induction text generalizing before with
  | nil => simp
  | cons c text ih =>
      obtain ⟨hc, htext⟩ := List.forall_mem_cons.mp h
      simp [next, push, hc, ih htext]

/-- A field is read up to a place where it can end, which is its front only if it is empty. -/
theorem run_field (records : List (List (List Char))) (fields : List (List Char))
    {value : List Char} (h : IsField text value) :
    ∃ place, run ⟨records, fields, [], .front⟩ text = some ⟨records, fields, value, place⟩ ∧
      place ≠ .quoted ∧ (place = .front → text = []) := by
  cases h with
  | bare hbare =>
      cases text with
      | nil => exact ⟨.front, rfl, by decide, fun _ => rfl⟩
      | cons c text =>
          obtain ⟨hc, htext⟩ := List.forall_mem_cons.mp hbare
          have hquote : c ≠ '"' := by
            rintro rfl
            simp [isBare] at hc
          refine ⟨.bare, ?_, by decide, by simp⟩
          simp [next, push, hc, hquote, run_bare htext]
  | quoted hbody =>
      refine ⟨.closing, ?_, by decide, by simp⟩
      simp [next, run_append, run_quoted hbody]

theorem next_comma {value : List Char} {place : Place} (h : place ≠ .quoted) :
    next ⟨records, fields, value, place⟩ ',' = some ⟨records, fields ++ [value], [], .front⟩ := by
  cases place <;> simp [next, delimit, endField, isBare] at h ⊢

theorem next_lineFeed {value : List Char} {place : Place} (h : place ≠ .quoted) :
    next ⟨records, fields, value, place⟩ '\n' =
      some ⟨records ++ [fields ++ [value]], [], [], .front⟩ := by
  cases place <;> simp [next, delimit, endRecord, isBare] at h ⊢

theorem run_record (records : List (List (List Char))) (fields : List (List Char))
    {values : List (List Char)} (h : IsRecord text values) :
    ∃ earlier value place, values = earlier ++ [value] ∧
      run ⟨records, fields, [], .front⟩ text = some ⟨records, fields ++ earlier, value, place⟩ ∧
      place ≠ .quoted ∧ (earlier = [] → place = .front → text = []) := by
  induction h generalizing fields with
  | @last text value hfield =>
      obtain ⟨place, hrun, hopen, hempty⟩ := run_field records fields hfield
      exact ⟨[], value, place, rfl, by simpa using hrun, hopen, fun _ => hempty⟩
  | @more text value rest values hfield _ ih =>
      obtain ⟨place, hrun, hopen, -⟩ := run_field records fields hfield
      obtain ⟨earlier, last, place', rfl, hrest, hopen', -⟩ := ih (fields ++ [value])
      refine ⟨value :: earlier, last, place', rfl, ?_, hopen', by simp⟩
      simp [run_append, hrun, next_comma hopen, hrest]

theorem finish_run_file {file : List (List (List Char))} (h : IsFile text file) :
    (run ⟨records, [], [], .front⟩ text).bind finish = some (records ++ file) := by
  induction h generalizing records with
  | nil => simp [finish]
  | unended hrecord ne_nil =>
      obtain ⟨earlier, value, place, rfl, hrun, hopen, hempty⟩ := run_record records [] hrecord
      rw [hrun]
      cases place with
      | quoted => contradiction
      | bare | closing => simp [finish, endRecord]
      | front =>
          have hearlier : earlier ≠ [] := fun h => ne_nil (hempty h rfl)
          simp [finish, endRecord, hearlier]
  | ended hrecord _ ih =>
      obtain ⟨earlier, value, place, rfl, hrun, hopen, -⟩ := run_record records [] hrecord
      simp [run_append, hrun, next_lineFeed hopen, ih]

end Reading

theorem records?_of_isFile {text : List Char} {records : List (List (List Char))}
    (h : IsFile text records) : records? text = some records :=
  Reading.finish_run_file h

theorem isBare_iff {c : Char} : isBare c = true ↔ needsQuotes c = false := by
  simp [isBare, needsQuotes, and_assoc]

theorem quoted_flatMap (text : List Char) : Quoted (text.flatMap quotedChar) text := by
  induction text with
  | nil => exact .nil
  | cons c text ih =>
      by_cases hc : c = '"'
      · subst hc
        exact .pair ih
      · simpa [quotedChar, hc] using Quoted.plain hc ih

theorem isField_field (text : List Char) : IsField (field text) text := by
  unfold field
  split
  · simpa using IsField.quoted (quoted_flatMap text)
  · next h =>
      apply IsField.bare
      intro c hc
      simp only [List.any_eq_true, not_exists, not_and, Bool.not_eq_true] at h
      exact isBare_iff.mpr (h c hc)

def fieldsOf : String × String → List (List Char)
  | (first, second) => [first.toList, second.toList]

theorem exists_line_row (pair : String × String) :
    ∃ line, row pair = line ++ ['\n'] ∧ IsRecord line (fieldsOf pair) := by
  obtain ⟨first, second⟩ := pair
  refine ⟨field first.toList ++ ',' :: field second.toList, by simp [row], ?_⟩
  exact .more (isField_field _) (.last (isField_field _))

theorem isFile_rows (pairs : List (String × String)) :
    IsFile (pairs.flatMap row) (pairs.map fieldsOf) := by
  induction pairs with
  | nil => exact .nil
  | cons pair pairs ih =>
      obtain ⟨line, hrow, hline⟩ := exists_line_row pair
      have htext : (pair :: pairs).flatMap row = line ++ '\n' :: pairs.flatMap row := by
        simp [hrow]
      rw [htext]
      exact .ended hline ih

theorem fieldsOf_injective : Function.Injective fieldsOf := by
  rintro ⟨first, second⟩ ⟨first', second'⟩ h
  simpa [fieldsOf, String.toList_inj] using h

end Csv

/-- Every object stands once, with a table at least. -/
structure UsedTables.Filled (used : UsedTables) : Prop where
  nodup_objects : (used.map Prod.fst).Nodup
  tables_ne_nil : ∀ entry ∈ used, entry.2 ≠ []

namespace UsedTables

variable {used other : UsedTables} {object : String} {tables : List String}

theorem pairs_cons : pairs ((object, tables) :: used) = tables.map (object, ·) ++ used.pairs := by
  simp [pairs]

theorem ne_of_mem_pairs (h : object ∉ used.map Prod.fst) {pair : String × String}
    (hpair : pair ∈ used.pairs) : pair.1 ≠ object := by
  rintro rfl
  obtain ⟨entry, hentry, hmem⟩ := List.mem_flatMap.mp hpair
  obtain ⟨table, -, rfl⟩ := List.mem_map.mp hmem
  exact h (List.mem_map_of_mem hentry)

theorem partition_pairs_cons (h : object ∉ used.map Prod.fst) :
    (pairs ((object, tables) :: used)).partition (·.1 = object) =
      (tables.map (object, ·), used.pairs) := by
  have hrest := fun pair hpair => @ne_of_mem_pairs used object h pair hpair
  have hnone : used.pairs.filter (·.1 = object) = [] := by
    simpa [List.filter_eq_nil_iff] using hrest
  have hall : used.pairs.filter (fun pair => !decide (pair.1 = object)) = used.pairs := by
    simpa [List.filter_eq_self] using hrest
  rw [List.partition_eq_filter_filter, pairs_cons]
  simp [List.filter_append, List.filter_map, Function.comp_def, hnone, hall]

theorem Filled.tail {entry : String × List String} (h : Filled (entry :: used)) : Filled used :=
  ⟨(List.nodup_cons.mp h.nodup_objects).2, fun other hother =>
    h.tables_ne_nil other (List.mem_cons_of_mem _ hother)⟩

theorem Filled.pairs_ne_nil {entry : String × List String} (h : Filled (entry :: used)) :
    ∃ table more, pairs (entry :: used) = (entry.1, table) :: more := by
  obtain ⟨table, tables, htables⟩ :=
    List.exists_cons_of_ne_nil (h.tables_ne_nil entry List.mem_cons_self)
  refine ⟨table, tables.map (entry.1, ·) ++ used.pairs, ?_⟩
  simp [pairs, htables]

theorem Filled.eq_of_pairs (h : used.Filled) (hother : other.Filled)
    (hpairs : used.pairs = other.pairs) : used = other := by
  induction used generalizing other with
  | nil =>
      cases other with
      | nil => rfl
      | cons entry other =>
          obtain ⟨table, more, hmore⟩ := hother.pairs_ne_nil
          rw [← hpairs] at hmore
          simp [pairs] at hmore
  | cons entry used ih =>
      obtain ⟨table, more, hmore⟩ := h.pairs_ne_nil
      cases other with
      | nil =>
          rw [hpairs] at hmore
          simp [pairs] at hmore
      | cons entry' other =>
          obtain ⟨table', more', hmore'⟩ := hother.pairs_ne_nil
          obtain ⟨object, tables⟩ := entry
          obtain ⟨object', tables'⟩ := entry'
          obtain rfl : object = object' := by
            rw [hmore, hmore'] at hpairs
            exact (Prod.mk.inj (List.cons.inj hpairs).1).1
          have hunseen := (List.nodup_cons.mp h.nodup_objects).1
          have hunseen' := (List.nodup_cons.mp hother.nodup_objects).1
          have hsplit := congrArg (List.partition (·.1 = object)) hpairs
          rw [partition_pairs_cons hunseen, partition_pairs_cons hunseen', Prod.mk.injEq] at hsplit
          obtain ⟨htables, hrest⟩ := hsplit
          have hinj : Function.Injective (fun table : String => (object, table)) :=
            fun _ _ h => (Prod.mk.inj h).2
          rw [List.map_injective_iff.mpr hinj htables, ih h.tail hother.tail hrest]

end UsedTables

/-! ## Main result -/

theorem isFile_csv (used : UsedTables) :
    Csv.IsFile used.csv.toList ((Csv.header :: used.pairs).map Csv.fieldsOf) := by
  rw [UsedTables.csv, String.toList_ofList]
  exact Csv.isFile_rows _

theorem pairs_eq_of_csv {used other : UsedTables} (h : used.csv = other.csv) :
    used.pairs = other.pairs := by
  have hused := Csv.records?_of_isFile (isFile_csv used)
  have hother := Csv.records?_of_isFile (isFile_csv other)
  rw [h, hother, Option.some.injEq] at hused
  have hrows := List.map_injective_iff.mpr Csv.fieldsOf_injective hused
  exact (List.cons.inj hrows).2.symm

/-- The text of a map has one reading, which is the header and a row for each pair. -/
theorem csv_readBack (used : UsedTables) :
    Csv.records? used.csv.toList = some (["object".toList, "table".toList] ::
      used.pairs.map fun (object, table) => [object.toList, table.toList]) ∧
    (∀ records, Csv.IsFile used.csv.toList records ↔
      records = ["object".toList, "table".toList] ::
        used.pairs.map fun (object, table) => [object.toList, table.toList]) ∧
    ∀ other : UsedTables, used.Filled → other.Filled → used.csv = other.csv → used = other := by
  have hfile := isFile_csv used
  have hread := Csv.records?_of_isFile hfile
  refine ⟨hread, fun records => ⟨fun h => ?_, ?_⟩, fun other hused hother hcsv =>
    hused.eq_of_pairs hother (pairs_eq_of_csv hcsv)⟩
  · rw [Csv.records?_of_isFile h] at hread
    exact Option.some.inj hread
  · rintro rfl
    exact hfile

/-- Names with everything that needs quotes, and empty ones. -/
def awkwardNames : UsedTables := [("h,1.d", ["", "a\"b\r\n"]), ("", [" x "])]

theorem csv_readBack_awkwardNames :
    Csv.records? awkwardNames.csv.toList = some [["object".toList, "table".toList],
      ["h,1.d".toList, []], ["h,1.d".toList, "a\"b\r\n".toList], [[], " x ".toList]] ∧
    awkwardNames = [("h,1.d", Ordered.firstSeen ["", "a\"b\r\n", ""]), ("", [" x "])] := by
  obtain ⟨hread, -, hsame⟩ := csv_readBack awkwardNames
  exact ⟨hread, hsame _ ⟨by decide, by decide⟩ ⟨by decide, by decide⟩ (by decide)⟩

example : awkwardNames.csv =
    "object,table\n\"h,1.d\",\n\"h,1.d\",\"a\"\"b\r\n\"\n, x \n" := by
  decide

end TableLineage.Export
