import TableLineage.Formula.Navigation
import TableLineage.Formula.QueryText
import TableLineage.Proofs.Ordered
import TableLineage.Proofs.Text.Blank
import TableLineage.Proofs.Text.LetterCase
import TableLineage.Proofs.Text.Split

/-!
# Records between braces

`isSome_lookup_bracedFields?`: which keys a line defines, read off the text of
its first braces.  `bracedFields?_written`: a record that is written with any
blanks between its parts is read back field by field, the last value under a
key being the one that counts.
-/

namespace TableLineage.Formula

open TableLineage.Text

/-- The text between the first opening brace of a line and the closing brace next to it. -/
def Braced (span line : List Char) : Prop :=
  ∃ before after, line = before ++ '\x7b' :: (span ++ '\x7d' :: after) ∧
    '\x7b' ∉ before ∧ '\x7d' ∉ span

def Defines (key line : List Char) : Prop :=
  ∃ span part name value, Braced span line ∧ part ∈ split ',' span ∧
    part = name ++ '=' :: value ∧ '=' ∉ name ∧ fieldKey name = key

theorem bracedSpan?_eq_some_iff {line span : List Char} :
    bracedSpan? line = some span ↔ Braced span line := by
  constructor
  · intro h
    rw [bracedSpan?] at h
    split at h
    · contradiction
    · next before inside hopen =>
        obtain ⟨⟨span', after⟩, hclose, rfl⟩ := Option.map_eq_some_iff.mp h
        obtain ⟨rfl, hbefore⟩ := splitOnce_eq_some_iff.mp hopen
        obtain ⟨rfl, hspan⟩ := splitOnce_eq_some_iff.mp hclose
        exact ⟨before, after, rfl, hbefore, hspan⟩
  · rintro ⟨before, after, rfl, hbefore, hspan⟩
    have hclose : splitOnce '\x7d' (span ++ '\x7d' :: after) = some (span, after) :=
      splitOnce_eq_some_iff.mpr ⟨rfl, hspan⟩
    rw [bracedSpan?, splitOnce_eq_some_iff.mpr ⟨rfl, hbefore⟩]
    simp [hclose]

theorem bracedFields?_eq_some_iff {line : List Char} {fields : List (List Char × List Char)} :
    bracedFields? line = some fields ↔
      ∃ span, Braced span line ∧
        Ordered.ofEntries ((split ',' span).filterMap field?) = fields := by
  rw [bracedFields?, Option.map_eq_some_iff]
  exact exists_congr fun span => and_congr_left' bracedSpan?_eq_some_iff

theorem bracedFields?_eq_none_iff {line : List Char} :
    bracedFields? line = none ↔ ∀ span, ¬ Braced span line := by
  rw [bracedFields?, Option.map_eq_none_iff, Option.eq_none_iff_forall_ne_some]
  exact forall_congr' fun span => not_congr bracedSpan?_eq_some_iff

theorem field?_eq_some_iff {part : List Char} {entry : List Char × List Char} :
    field? part = some entry ↔
      ∃ name value, part = name ++ '=' :: value ∧ '=' ∉ name ∧
        entry = (fieldKey name, fieldValue value) := by
  rw [field?, Option.map_eq_some_iff]
  constructor
  · rintro ⟨⟨name, value⟩, hsplit, rfl⟩
    obtain ⟨hpart, hname⟩ := splitOnce_eq_some_iff.mp hsplit
    exact ⟨name, value, hpart, hname, rfl⟩
  · rintro ⟨name, value, hpart, hname, rfl⟩
    exact ⟨(name, value), splitOnce_eq_some_iff.mpr ⟨hpart, hname⟩, rfl⟩

theorem Braced.defines_iff {span line : List Char} (h : Braced span line) {key : List Char} :
    Defines key line ↔
      ∃ part ∈ split ',' span, ∃ value, field? part = some (key, value) := by
  constructor
  · rintro ⟨span', part, name, value, hspan', hpart, hassigned, hname, rfl⟩
    obtain rfl : span = span' := by
      rw [← bracedSpan?_eq_some_iff] at h hspan'
      exact Option.some.inj (h.symm.trans hspan')
    exact ⟨part, hpart, _, field?_eq_some_iff.mpr ⟨name, value, hassigned, hname, rfl⟩⟩
  · rintro ⟨part, hpart, found, hfield⟩
    obtain ⟨name, value, hassigned, hname, hentry⟩ := field?_eq_some_iff.mp hfield
    exact ⟨span, part, name, value, h, hpart, hassigned, hname, (congrArg Prod.fst hentry).symm⟩

theorem isSome_lookup_bracedFields? {key line : List Char}
    {fields : List (List Char × List Char)} (h : bracedFields? line = some fields) :
    (Ordered.lookup key fields).isSome ↔ Defines key line := by
  obtain ⟨span, hspan, rfl⟩ := bracedFields?_eq_some_iff.mp h
  rw [Ordered.lookup_ofEntries, Ordered.isSome_lookup_iff, hspan.defines_iff]
  simp only [List.mem_reverse, List.mem_filterMap]
  constructor
  · rintro ⟨value, part, hpart, hfield⟩
    exact ⟨part, hpart, value, hfield⟩
  · rintro ⟨part, hpart, value, hfield⟩
    exact ⟨value, part, hpart, hfield⟩

structure KeyText (key : List Char) : Prop where
  no_equal : '=' ∉ key
  no_comma : ',' ∉ key
  no_brace : '\x7d' ∉ key
  trim_eq : trim key = key
  unopened : key.head? ≠ some '['

structure ValueText (value : List Char) : Prop where
  no_quote : '"' ∉ value
  no_comma : ',' ∉ value
  no_brace : '\x7d' ∉ value
  trim_eq : trim value = value
  unclosed : value.getLast? ≠ some ']'

structure FieldText where
  beforeKey : List Char
  key : List Char
  afterKey : List Char
  beforeValue : List Char
  value : List Char
  afterValue : List Char
  key_blanks : AllBlank beforeKey ∧ AllBlank afterKey
  value_blanks : AllBlank beforeValue ∧ AllBlank afterValue
  value_text : ValueText value

namespace FieldText

/-- The text in front of the equals sign, and likewise the text behind it. -/
def keyPart (field : FieldText) : List Char := field.beforeKey ++ (field.key ++ field.afterKey)

def valuePart (field : FieldText) : List Char :=
  field.beforeValue ++ (enquote field.value ++ field.afterValue)

def written (field : FieldText) : List Char := field.keyPart ++ '=' :: field.valuePart

def entry (field : FieldText) : List Char × List Char := (lowercase field.key, field.value)

end FieldText

/-- What stands in front of a key: nothing or, at the first, a bracket behind blanks. -/
inductive Opening : List Char → Prop
  | none : Opening []
  | bracket {blanks : List Char} : AllBlank blanks → Opening (blanks ++ ['['])

/-- What stands behind a value: nothing or, at the last, a bracket in front of blanks. -/
inductive Closing : List Char → Prop
  | none : Closing []
  | bracket {blanks : List Char} : AllBlank blanks → Closing (']' :: blanks)

theorem Opening.not_mem {text : List Char} (h : Opening text) {c : Char} (hc : c ≠ '[')
    (unblank : isBlank c = false) : c ∉ text := by
  cases h with
  | none => exact List.not_mem_nil
  | bracket hblanks => simpa [hc] using hblanks.not_mem unblank

theorem Closing.not_mem {text : List Char} (h : Closing text) {c : Char} (hc : c ≠ ']')
    (unblank : isBlank c = false) : c ∉ text := by
  cases h with
  | none => exact List.not_mem_nil
  | bracket hblanks => simpa [hc] using hblanks.not_mem unblank

theorem dropWhile_bracket {text : List Char} (h : text.head? ≠ some '[') :
    text.dropWhile (· == '[') = text := by
  cases text with
  | nil => rfl
  | cons c text => rw [List.dropWhile_cons_of_neg (by simpa using h)]

theorem KeyText.fieldKey_framed {key opening before after : List Char} (h : KeyText key)
    (hopening : Opening opening) (hbefore : AllBlank before) (hafter : AllBlank after) :
    fieldKey (opening ++ (before ++ (key ++ after))) = lowercase key := by
  have hlast : ∀ c ∈ key.getLast?, isBlank c = false := by
    rw [← h.trim_eq]
    exact getLast?_trim key
  cases hopening with
  | none =>
      rw [List.nil_append, fieldKey, trim_framed hbefore hafter h.trim_eq,
        dropWhile_bracket h.unopened, h.trim_eq]
  | @bracket blanks hblanks =>
      have hbracket : isBlank '[' = false := by decide
      cases key with
      | nil =>
          -- Without a key, the blanks on both of its sides are trimmed with those behind it.
          have htrim := @trim_append blanks ['['] (before ++ after) hblanks
            (hbefore.append hafter) (by simp [hbracket]) (by simp [hbracket])
          rw [List.append_assoc, List.nil_append, fieldKey, htrim]
          rfl
      | cons c tail =>
          have hlast' : ∀ d ∈ ('[' :: (before ++ c :: tail)).getLast?, isBlank d = false := by
            simpa [List.getLast?_cons, List.getLast?_append] using hlast
          have htrim := @trim_append blanks ('[' :: (before ++ c :: tail)) after hblanks hafter
            (by simp [hbracket]) hlast'
          have hunopened : (before ++ c :: tail).head? ≠ some '[' := by
            cases before with
            | nil => exact h.unopened
            | cons b before =>
                have hb : '[' ∉ b :: before := hbefore.not_mem hbracket
                simpa using Ne.symm (List.ne_of_not_mem_cons hb)
          have hinner := trim_framed hbefore .nil h.trim_eq
          rw [List.append_nil] at hinner
          have htext : blanks ++ ['['] ++ (before ++ (c :: tail ++ after)) =
              blanks ++ ('[' :: (before ++ c :: tail) ++ after) := by simp
          rw [htext, fieldKey, htrim, List.dropWhile_cons_of_pos rfl, dropWhile_bracket hunopened,
            hinner]

theorem KeyText.of_letters {key : List Char}
    (letters : ∀ c ∈ key, isAsciiLetter (lowerAsciiChar c) = true) : KeyText key := by
  have hfree {c : Char} (hc : isAsciiLetter (lowerAsciiChar c) = false) : c ∉ key := by
    intro hmem
    simp [letters c hmem] at hc
  have hunblank : ∀ c ∈ key, isBlank c = false := by
    intro c hmem
    by_contra hblank
    refine hfree ?_ hmem
    exact forall_blank (p := fun c => isAsciiLetter (lowerAsciiChar c) = false) (by decide)
      (by simpa using hblank)
  refine ⟨hfree (by decide), hfree (by decide), hfree (by decide), ?_, ?_⟩
  · have htrim := @trim_append [] key [] .nil .nil
      (fun c hc => hunblank c (List.mem_of_mem_head? hc))
      (fun c hc => hunblank c (List.mem_of_mem_getLast? hc))
    rwa [List.append_nil, List.nil_append] at htrim
  · intro hhead
    exact hfree (by decide) (List.mem_of_mem_head? hhead)

theorem filter_unquoted {text : List Char} (h : '"' ∉ text) : text.filter (· != '"') = text := by
  rw [List.filter_eq_self]
  intro c hc
  exact bne_iff_ne.mpr (ne_of_mem_of_not_mem hc h)

theorem ValueText.fieldValue_framed {value before after closing : List Char} (h : ValueText value)
    (hbefore : AllBlank before) (hafter : AllBlank after) (hclosing : Closing closing) :
    fieldValue (before ++ (enquote value ++ after) ++ closing) = value := by
  have hlast : ∀ c ∈ value.getLast?, isBlank c = false := by
    rw [← h.trim_eq]
    exact getLast?_trim value
  have hquote : isBlank '"' = false := by decide
  have hunquoted : (before ++ (enquote value ++ after) ++ closing).filter (· != '"') =
      before ++ (value ++ after) ++ closing := by
    simp only [List.filter_append, enquote, List.filter_cons]
    rw [filter_unquoted (hbefore.not_mem hquote), filter_unquoted (hafter.not_mem hquote),
      filter_unquoted h.no_quote, filter_unquoted (hclosing.not_mem (by decide) hquote)]
    simp
  rw [fieldValue, hunquoted]
  cases hclosing with
  | none =>
      rw [List.append_nil]
      -- An empty value leaves blanks only, which are trimmed from one end.
      cases value with
      | nil =>
          have hend : trimEnd (before ++ after) = [] :=
            @trimEnd_append [] _ (hbefore.append hafter) (by simp)
          rw [List.nil_append, hend]
          rfl
      | cons c tail =>
          have hend : trimEnd (before ++ c :: tail ++ after) = before ++ c :: tail :=
            trimEnd_append hafter (by simpa using hlast)
          have hunclosed : (before ++ c :: tail).getLast? ≠ some ']' := by
            simpa using h.unclosed
          have hinner := trim_framed hbefore .nil h.trim_eq
          rw [List.append_nil] at hinner
          rw [← List.append_assoc, hend, dropFinal, if_neg hunclosed, hinner]
  | @bracket blanks hblanks =>
      have hbracket : isBlank ']' = false := by decide
      have hend : trimEnd (before ++ (value ++ after) ++ [']'] ++ blanks) =
          before ++ (value ++ after) ++ [']'] :=
        trimEnd_append hblanks (by simp [hbracket])
      have htext : before ++ (value ++ after) ++ ']' :: blanks =
          before ++ (value ++ after) ++ [']'] ++ blanks := by simp
      rw [htext, hend, dropFinal, if_pos List.getLast?_concat, List.dropLast_concat]
      exact trim_framed hbefore hafter h.trim_eq

/-! ## Fields that are read back -/

theorem FieldText.field?_written {field : FieldText} (hkey : KeyText field.key)
    {opening closing : List Char} (hopening : Opening opening) (hclosing : Closing closing) :
    field? (opening ++ field.written ++ closing) = some field.entry := by
  obtain ⟨hbefore, hafter⟩ := field.key_blanks
  obtain ⟨hbefore', hafter'⟩ := field.value_blanks
  refine field?_eq_some_iff.mpr ⟨opening ++ field.keyPart, field.valuePart ++ closing, ?_, ?_, ?_⟩
  · simp [written]
  · have hequal : isBlank '=' = false := by decide
    simp only [keyPart, List.mem_append, not_or]
    exact ⟨hopening.not_mem (by decide) hequal, hbefore.not_mem hequal, hkey.no_equal,
      hafter.not_mem hequal⟩
  · rw [keyPart, hkey.fieldKey_framed hopening hbefore hafter, valuePart,
      field.value_text.fieldValue_framed hbefore' hafter' hclosing]
    rfl

theorem FieldText.not_mem_written {field : FieldText} {c : Char} (hequal : c ≠ '=')
    (hquote : c ≠ '"') (unblank : isBlank c = false) (hkey : c ∉ field.key)
    (hvalue : c ∉ field.value) : c ∉ field.written := by
  obtain ⟨hbefore, hafter⟩ := field.key_blanks
  obtain ⟨hbefore', hafter'⟩ := field.value_blanks
  have hliteral : c ∉ enquote field.value := by
    simpa [enquote, hquote] using hvalue
  simp only [written, keyPart, valuePart, List.mem_append, List.mem_cons, not_or]
  exact ⟨⟨hbefore.not_mem unblank, hkey, hafter.not_mem unblank⟩, hequal,
    hbefore'.not_mem unblank, hliteral, hafter'.not_mem unblank⟩

theorem FieldText.comma_not_mem {field : FieldText} (hkey : KeyText field.key) :
    ',' ∉ field.written :=
  not_mem_written (by decide) (by decide) (by decide) hkey.no_comma field.value_text.no_comma

theorem FieldText.brace_not_mem {field : FieldText} (hkey : KeyText field.key) :
    '\x7d' ∉ field.written :=
  not_mem_written (by decide) (by decide) (by decide) hkey.no_brace field.value_text.no_brace

def writeFields (fields : List FieldText) : List Char :=
  [','].intercalate (fields.map FieldText.written)

theorem filterMap_field?_writeFields {fields : List FieldText} (ne_nil : fields ≠ [])
    (keys : ∀ field ∈ fields, KeyText field.key) {opening closing : List Char}
    (hopening : Opening opening) (hclosing : Closing closing) :
    (split ',' (opening ++ writeFields fields ++ closing)).filterMap field? =
      fields.map FieldText.entry := by
  -- Only the first field has the bracket in front of it and only the last one behind it.
  induction fields generalizing opening with
  | nil => contradiction
  | cons field fields ih =>
      obtain ⟨hkey, hkeys⟩ := List.forall_mem_cons.mp keys
      have hcomma : isBlank ',' = false := by decide
      have hfront : ',' ∉ opening ++ field.written := by
        rw [List.mem_append, not_or]
        exact ⟨hopening.not_mem (by decide) hcomma, FieldText.comma_not_mem hkey⟩
      cases fields with
      | nil =>
          have hback : ',' ∉ closing := hclosing.not_mem (by decide) hcomma
          have hpart : ',' ∉ opening ++ field.written ++ closing := by
            rw [List.mem_append, not_or]
            exact ⟨hfront, hback⟩
          have hone : writeFields [field] = field.written := by simp [writeFields]
          rw [hone, split_of_not_mem hpart, List.filterMap_cons,
            FieldText.field?_written hkey hopening hclosing]
          rfl
      | cons next fields =>
          have hmore : opening ++ writeFields (field :: next :: fields) ++ closing =
              opening ++ field.written ++ ',' :: (writeFields (next :: fields) ++ closing) := by
            simp [writeFields, List.intercalate_cons_cons]
          have hfield := FieldText.field?_written hkey hopening .none
          have hrest := ih (List.cons_ne_nil _ _) hkeys .none
          rw [List.append_nil] at hfield
          rw [List.nil_append] at hrest
          rw [hmore, split_append_cons hfront, List.filterMap_cons, hfield, hrest]
          rfl

theorem not_mem_writeFields {fields : List FieldText}
    (keys : ∀ field ∈ fields, KeyText field.key) : '\x7d' ∉ writeFields fields := by
  induction fields with
  | nil => exact List.not_mem_nil
  | cons field fields ih =>
      obtain ⟨hkey, hkeys⟩ := List.forall_mem_cons.mp keys
      have hfield := FieldText.brace_not_mem hkey
      cases fields with
      | nil => simpa [writeFields] using hfield
      | cons next fields =>
          have hrest := ih hkeys
          simp only [writeFields, List.map_cons, List.intercalate_cons_cons, List.mem_append,
            not_or] at hrest ⊢
          exact ⟨⟨hfield, by decide⟩, hrest⟩

theorem bracedFields?_written {front opening closing : List Char} {fields : List FieldText}
    (front_free : '\x7b' ∉ front) (hopening : Opening opening) (ne_nil : fields ≠ [])
    (keys : ∀ field ∈ fields, KeyText field.key) (hclosing : Closing closing)
    (back : List Char) :
    bracedFields?
        (front ++ '\x7b' :: (opening ++ writeFields fields ++ closing ++ '\x7d' :: back)) =
      some (Ordered.ofEntries (fields.map FieldText.entry)) := by
  have hbrace : isBlank '\x7d' = false := by decide
  have hspan : '\x7d' ∉ opening ++ writeFields fields ++ closing := by
    simp only [List.mem_append, not_or]
    exact ⟨⟨hopening.not_mem (by decide) hbrace, not_mem_writeFields keys⟩,
      hclosing.not_mem (by decide) hbrace⟩
  refine bracedFields?_eq_some_iff.mpr ⟨_, ⟨front, back, rfl, front_free, hspan⟩, ?_⟩
  rw [filterMap_field?_writeFields ne_nil keys hopening hclosing]

end TableLineage.Formula
