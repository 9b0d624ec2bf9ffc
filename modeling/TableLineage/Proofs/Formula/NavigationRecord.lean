import TableLineage.Proofs.Formula.Navigation

/-!
# Records of any number of fields

`bracedFields?_record`: however a record of one level is spaced, its keys are
read back in lower case, each at its first place and with its last value, and
only a line without a brace or without a closing brace behind its first one has
no record at all.
-/

namespace TableLineage.Formula

open TableLineage.Text

namespace FieldText

def indent (field : FieldText) {blanks : List Char} (hblanks : AllBlank blanks) : FieldText :=
  { field with
    beforeKey := blanks ++ field.beforeKey
    key_blanks := ⟨hblanks.append field.key_blanks.1, field.key_blanks.2⟩ }

variable {blanks : List Char} (hblanks : AllBlank blanks) (field : FieldText)

@[simp] theorem key_indent : (field.indent hblanks).key = field.key := rfl

@[simp] theorem entry_indent : (field.indent hblanks).entry = field.entry := rfl

@[simp] theorem written_indent : (field.indent hblanks).written = blanks ++ field.written := by
  simp [indent, written, keyPart, valuePart]

theorem writeFields_indent (fields : List FieldText) :
    writeFields (field.indent hblanks :: fields) = blanks ++ writeFields (field :: fields) := by
  cases fields <;> simp [writeFields, List.intercalate_cons_cons]

end FieldText

/-- A line with a record between braces, by the texts it is made of. -/
structure RecordText where
  front : List Char
  beforeOpening : List Char
  afterOpening : List Char
  fields : List FieldText
  afterClosing : List Char
  back : List Char
  front_free : '\x7b' ∉ front
  opening_blanks : AllBlank beforeOpening ∧ AllBlank afterOpening
  closing_blanks : AllBlank afterClosing
  keys : ∀ field ∈ fields, KeyText field.key

namespace RecordText

def written (record : RecordText) : List Char :=
  record.front ++ '\x7b' :: (record.beforeOpening ++ '[' :: (record.afterOpening ++
    writeFields record.fields ++ ']' :: record.afterClosing) ++ '\x7d' :: record.back)

def keysOf (record : RecordText) : List (List Char) :=
  record.fields.map fun field => lowercase field.key

def lastField? (record : RecordText) (key : List Char) : Option FieldText :=
  record.fields.reverse.find? fun field => lowercase field.key = key

theorem bracedFields?_written_nil {record : RecordText} (h : record.fields = []) :
    bracedFields? record.written = some [] := by
  obtain ⟨hbefore, hafter⟩ := record.opening_blanks
  have hfree (c : Char) (hopening : c ≠ '[') (hclosing : c ≠ ']') (unblank : isBlank c = false) :
      c ∉ record.beforeOpening ++ '[' :: (record.afterOpening ++ ']' :: record.afterClosing) := by
    simp [hopening, hclosing, hbefore.not_mem unblank, hafter.not_mem unblank,
      record.closing_blanks.not_mem unblank]
  have hcomma := hfree ',' (by decide) (by decide) (by decide)
  have hequal := hfree '=' (by decide) (by decide) (by decide)
  have hbrace := hfree '\x7d' (by decide) (by decide) (by decide)
  refine bracedFields?_eq_some_iff.mpr ⟨_, ⟨record.front, record.back, ?_, record.front_free,
    hbrace⟩, ?_⟩
  · simp [written, h, writeFields]
  · rw [split_of_not_mem hcomma]
    simp [field?, splitOnce_eq_none_iff.mpr hequal, Ordered.ofEntries]

theorem bracedFields?_written (record : RecordText) :
    bracedFields? record.written =
      some (Ordered.ofEntries (record.fields.map FieldText.entry)) := by
  obtain ⟨hbefore, hafter⟩ := record.opening_blanks
  cases hfields : record.fields with
  | nil => exact bracedFields?_written_nil hfields
  | cons field fields =>
      have hkeys : ∀ other ∈ field.indent hafter :: fields, KeyText other.key := by
        have hkeys := record.keys
        rw [hfields] at hkeys
        simpa using hkeys
      have hread := Formula.bracedFields?_written record.front_free (.bracket hbefore)
        (List.cons_ne_nil _ _) hkeys (.bracket record.closing_blanks) record.back
      rw [FieldText.writeFields_indent] at hread
      simpa [written, hfields] using hread

end RecordText

theorem bracedFields?_eq_none_iff_braces {text : List Char} :
    bracedFields? text = none ↔ '\x7b' ∉ text ∨
      ∃ front inside, text = front ++ '\x7b' :: inside ∧ '\x7b' ∉ front ∧ '\x7d' ∉ inside := by
  rw [bracedFields?, Option.map_eq_none_iff, bracedSpan?]
  cases hopen : splitOnce '\x7b' text with
  | none => simp [splitOnce_eq_none_iff.mp hopen]
  | some parts =>
      obtain ⟨htext, hfront⟩ := splitOnce_eq_some_iff.mp hopen
      constructor
      · intro hclose
        have hinside : '\x7d' ∉ parts.2 := by
          simpa [splitOnce_eq_none_iff] using hclose
        exact .inr ⟨parts.1, parts.2, htext, hfront, hinside⟩
      · rintro (hnone | ⟨front, inside, htext', hfront', hinside⟩)
        · simp [htext] at hnone
        · have hparts : some parts = some (front, inside) := by
            rw [← hopen]
            exact splitOnce_eq_some_iff.mpr ⟨htext', hfront'⟩
          cases hparts
          simpa [splitOnce_eq_none_iff] using hinside

/-! ## Main result -/

theorem bracedFields?_record (record : RecordText) (text : List Char) :
    (∃ fields, bracedFields? record.written = some fields ∧
      fields.map Prod.fst = record.keysOf.eraseDups ∧
      ∀ key value, (key, value) ∈ fields ↔
        ∃ field, record.lastField? key = some field ∧ field.value = value) ∧
    (bracedFields? text = none ↔ '\x7b' ∉ text ∨
      ∃ front inside, text = front ++ '\x7b' :: inside ∧ '\x7b' ∉ front ∧ '\x7d' ∉ inside) := by
  refine ⟨⟨_, record.bracedFields?_written, ?_, fun key value => ?_⟩,
    bracedFields?_eq_none_iff_braces⟩
  · rw [Ordered.keys_ofEntries, Ordered.firstSeen_eq_eraseDups, List.map_map]
    rfl
  · rw [Ordered.mem_ofEntries_iff, ← List.map_reverse, List.find?_map, Option.map_map,
      Option.map_eq_some_iff]
    rfl

def renamedItem : RecordText where
  front := "T = S".toList
  beforeOpening := [' ']
  afterOpening := ['\t']
  fields := [
    ⟨[], "Item".toList, [], [], "a".toList, [' '], by decide, by decide,
      ⟨by decide, by decide, by decide, by decide +kernel, by decide⟩⟩,
    ⟨[' '], "schema".toList, [' '], [' '], "dbo".toList, [], by decide, by decide,
      ⟨by decide, by decide, by decide, by decide +kernel, by decide⟩⟩,
    ⟨[], "ITEM".toList, [], [], "é=[b".toList, ['\n'], by decide, by decide,
      ⟨by decide, by decide, by decide, by decide +kernel, by decide⟩⟩]
  afterClosing := [' ']
  back := "[Data]".toList
  front_free := by decide
  opening_blanks := by decide
  closing_blanks := by decide
  keys := List.forall_mem_cons.mpr ⟨.of_letters (List.all_eq_true.mp (by decide)),
    List.forall_mem_cons.mpr ⟨.of_letters (List.all_eq_true.mp (by decide)),
      List.forall_mem_singleton.mpr (.of_letters (List.all_eq_true.mp (by decide)))⟩⟩

theorem bracedFields?_record_renamed :
    (∃ fields,
      bracedFields?
        "T = S\x7b [\tItem=\"a\" , schema = \"dbo\",ITEM=\"é=[b\"\n] \x7d[Data]".toList =
          some fields ∧
      fields.map Prod.fst = ["item".toList, "schema".toList] ∧
      ("item".toList, "é=[b".toList) ∈ fields) ∧
    bracedFields? "Source[Data]\x7d".toList = none := by
  obtain ⟨⟨fields, hread, hkeys, hvalues⟩, hnone⟩ :=
    bracedFields?_record renamedItem "Source[Data]\x7d".toList
  refine ⟨⟨fields, hread, hkeys.trans (by decide +kernel), ?_⟩, hnone.mpr (.inl (by decide))⟩
  exact (hvalues _ _).mpr ⟨_, rfl, rfl⟩

end TableLineage.Formula
