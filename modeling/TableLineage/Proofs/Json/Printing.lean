import TableLineage.Json.Printer
import TableLineage.Proofs.Json.Meaning

/-!
# Printed text as the text of a tree

Printed text differs from other text of the same tree only in how strings are
escaped and where blanks stand.  Both ways to print are layouts of one another's
text, so that it takes one proof to see that the text of a value is that of its
tree.  Values with numbers are left out, since records have none.
-/

namespace TableLineage.Json

open Printer Reader

def escapedText (text : String) : List Char := text.toList.flatMap escapedChar

structure Stands (text : List Char) (c : Char) : Prop where
  clean : Clean text
  body : ∀ {body s t}, Body body s t → Body (text ++ body) (text ++ s) t
  units : ∀ {body rest}, bodyUnits? body = some rest →
    ∃ units, bodyUnits? (text ++ body) = some units ∧
      ∀ before, Text.Utf16.charsFrom before units = Text.Utf16.charsFrom (c :: before) rest

theorem Reader.Escapes.stands {text : List Char} {c : Char} (h : Escapes text c) :
    Stands ('\\' :: text) c := by
  refine ⟨List.forall_mem_cons.mpr ⟨rfl, h.clean⟩, h.body, fun hbody => ?_⟩
  obtain ⟨units, hunits, hchars⟩ := h.units hbody
  exact ⟨_, hunits, hchars⟩

theorem stands_plain {c : Char} (hquote : c ≠ '"') (hslash : c ≠ '\\')
    (hcontrol : isControl c = false) : Stands [c] c :=
  ⟨List.forall_mem_singleton.mpr hcontrol, .plain hquote hslash, fun hbody =>
    ⟨_, bodyUnits?_plain hslash hbody, fun before => Text.Utf16.charsFrom_unitsOfChar before c _⟩⟩

theorem hexValue?_hexDigits (n : Nat) (h : n < 32) :
    hexValue? ['0', '0', hexDigit (n / 16), hexDigit (n % 16)] = some n := by
  revert n
  decide

theorem stands_escapedChar (c : Char) : Stands (escapedChar c) c := by
  unfold escapedChar
  split
  case h_8 hquote hslash _ _ _ _ _ =>
    split
    · next hcontrol =>
        have hhex := hexValue?_hexDigits c.toNat hcontrol
        have hescapes := (escapes_hex hhex (.inl (by omega))).stands
        rwa [Char.ofNat_toNat] at hescapes
    · next hcontrol => exact stands_plain hquote hslash (decide_eq_false hcontrol)
  all_goals exact Escapes.stands (simpleEscape?_escapes rfl)

theorem clean_escapedText (text : String) : Clean (escapedText text) := by
  intro c hc
  obtain ⟨d, -, hd⟩ := List.mem_flatMap.mp hc
  exact (stands_escapedChar d).clean c hd

theorem body_flatMap_escapedChar (chars t : List Char) :
    Body (chars.flatMap escapedChar) (chars.flatMap escapedChar ++ '"' :: t) t := by
  induction chars with
  | nil => exact .close
  | cons c chars ih =>
      rw [List.flatMap_cons, List.append_assoc]
      exact (stands_escapedChar c).body ih

theorem units_flatMap_escapedChar (chars : List Char) :
    ∃ units, bodyUnits? (chars.flatMap escapedChar) = some units ∧
      ∀ before, Text.Utf16.charsFrom before units = some (before.reverse ++ chars) := by
  induction chars with
  | nil => exact ⟨[], rfl, fun before => by simp [Text.Utf16.charsFrom]⟩
  | cons c chars ih =>
      obtain ⟨rest, hrest, hchars⟩ := ih
      obtain ⟨units, hunits, hread⟩ := (stands_escapedChar c).units hrest
      refine ⟨units, hunits, fun before => ?_⟩
      rw [hread, hchars, List.reverse_cons, List.append_assoc, List.singleton_append]

theorem spells_escapedText (text : String) : Spells (escapedText text) text := by
  obtain ⟨units, hunits, hchars⟩ := units_flatMap_escapedChar text.toList
  refine ⟨clean_escapedText text, ?_⟩
  rw [bodyText?, escapedText, hunits]
  simp [Text.Utf16.chars?, hchars]

theorem stringText_append (text : String) (t : List Char) :
    stringText text ++ t = '"' :: (escapedText text ++ '"' :: t) := by
  simp [stringText, escapedText]

mutual

/-- The tree of the text that a value is printed as. -/
def Value.tree : Value → Tree
  | .null => .null
  | .boolean value => .boolean value
  | .number value => .number value.text.toList
  | .string text => .string (escapedText text)
  | .array items => .array (treesOf items)
  | .object members => .object (memberTreesOf members)

def treesOf : List Value → List Tree
  | [] => []
  | item :: items => item.tree :: treesOf items

def memberTreesOf : List (String × Value) → List (List Char × Tree)
  | [] => []
  | (key, value) :: members => (escapedText key, value.tree) :: memberTreesOf members

end

theorem treesOf_eq_map (items : List Value) : treesOf items = items.map Value.tree := by
  induction items with
  | nil => rfl
  | cons item items ih => rw [treesOf, ih, List.map_cons]

theorem memberTreesOf_eq_map (members : List (String × Value)) :
    memberTreesOf members = members.map fun member => (escapedText member.1, member.2.tree) := by
  induction members with
  | nil => rfl
  | cons member members ih => rw [memberTreesOf, ih, List.map_cons]

inductive Value.Plain : Value → Prop
  | null : Plain .null
  | boolean : Plain (.boolean flag)
  | string : Plain (.string text)
  | array : (∀ item ∈ values, Plain item) → Plain (.array values)
  | object : (∀ member ∈ entries, Plain member.2) → Plain (.object entries)

@[simp]
theorem Value.plain_string (text : String) : (Value.string text).Plain := .string

@[simp]
theorem Value.plain_array {values : List Value} :
    (Value.array values).Plain ↔ ∀ item ∈ values, item.Plain :=
  ⟨fun | .array h => h, .array⟩

@[simp]
theorem Value.plain_object {entries : List (String × Value)} :
    (Value.object entries).Plain ↔ ∀ member ∈ entries, member.2.Plain :=
  ⟨fun | .object h => h, .object⟩

theorem Value.Plain.valid {a : Value} (h : a.Plain) : a.tree.Valid := by
  induction h with
  | null => rw [tree]; exact .null
  | boolean => rw [tree]; exact .boolean
  | string => rw [tree]; exact .string (spells_escapedText _).spellable
  | array _ ih =>
      rw [tree, treesOf_eq_map]
      exact .array (List.forall_mem_map.mpr ih)
  | object _ ih =>
      rw [tree, memberTreesOf_eq_map]
      exact .object
        (List.forall_mem_map.mpr fun member _ => (spells_escapedText member.1).spellable)
        (List.forall_mem_map.mpr ih)

structure Layout where
  /-- In front of an item, a member or the end of a composite value. -/
  line : Nat → List Char
  /-- Behind a colon. -/
  gap : List Char
  blank_line : ∀ depth, ∀ c ∈ line depth, Cursor.isBlank c = true
  blank_gap : ∀ c ∈ gap, Cursor.isBlank c = true

namespace Layout

variable (layout : Layout)

mutual

def print (depth : Nat) : Value → List Char
  | .array [] => ['[', ']']
  | .array (item :: items) =>
      '[' :: layout.line (depth + 1) ++ print (depth + 1) item ++ printItems depth items
  | .object [] => ['\x7b', '\x7d']
  | .object ((key, value) :: members) =>
      '\x7b' :: layout.line (depth + 1) ++ stringText key ++ ':' :: layout.gap ++
        print (depth + 1) value ++ printMembers depth members
  | scalar => scalarText scalar

def printItems (depth : Nat) : List Value → List Char
  | [] => layout.line depth ++ [']']
  | item :: items =>
      ',' :: layout.line (depth + 1) ++ print (depth + 1) item ++ printItems depth items

def printMembers (depth : Nat) : List (String × Value) → List Char
  | [] => layout.line depth ++ ['\x7d']
  | (key, value) :: members =>
      ',' :: layout.line (depth + 1) ++ stringText key ++ ':' :: layout.gap ++
        print (depth + 1) value ++ printMembers depth members

end

def tight : Layout := ⟨fun _ => [], [], by simp, by simp⟩

def indented : Layout where
  line := newLine
  gap := [' ']
  blank_line depth := by
    simp [newLine, Cursor.isBlank]
  blank_gap := by simp [Cursor.isBlank]

end Layout

mutual

theorem compact_eq (depth : Nat) : ∀ a : Value, compact a = Layout.tight.print depth a
  | .null | .boolean _ | .number _ | .string _ => by simp only [compact, Layout.print]
  | .array [] | .object [] => by simp only [compact, Layout.print]
  | .array (item :: items) => by
      simp only [compact, Layout.print, compact_eq (depth + 1) item, compactItems_eq depth items]
      rfl
  | .object ((key, value) :: members) => by
      simp [compact, Layout.print, compact_eq (depth + 1) value, compactMembers_eq depth members,
        Layout.tight]

theorem compactItems_eq (depth : Nat) :
    ∀ items : List Value, compactItems items = Layout.tight.printItems depth items
  | [] => by simp only [compactItems, Layout.printItems]; rfl
  | item :: items => by
      simp only [compactItems, Layout.printItems, compact_eq (depth + 1) item,
        compactItems_eq depth items]
      rfl

theorem compactMembers_eq (depth : Nat) :
    ∀ members : List (String × Value), compactMembers members =
      Layout.tight.printMembers depth members
  | [] => by simp only [compactMembers, Layout.printMembers]; rfl
  | (key, value) :: members => by
      simp [compactMembers, Layout.printMembers, compact_eq (depth + 1) value,
        compactMembers_eq depth members, Layout.tight]

end

mutual

theorem indented_eq (depth : Nat) : ∀ a : Value, indented depth a = Layout.indented.print depth a
  | .null | .boolean _ | .number _ | .string _ => by simp only [indented, Layout.print]
  | .array [] | .object [] => by simp only [indented, Layout.print]
  | .array (item :: items) => by
      simp [indented, Layout.print, indented_eq (depth + 1) item, indentedItems_eq depth items,
        Layout.indented]
  | .object ((key, value) :: members) => by
      simp [indented, Layout.print, indented_eq (depth + 1) value, indentedMembers_eq depth members,
        Layout.indented]

theorem indentedItems_eq (depth : Nat) :
    ∀ items : List Value, indentedItems depth items = Layout.indented.printItems depth items
  | [] => by simp [indentedItems, Layout.printItems, Layout.indented]
  | item :: items => by
      simp [indentedItems, Layout.printItems, indented_eq (depth + 1) item,
        indentedItems_eq depth items, Layout.indented]

theorem indentedMembers_eq (depth : Nat) :
    ∀ members : List (String × Value), indentedMembers depth members =
      Layout.indented.printMembers depth members
  | [] => by simp [indentedMembers, Layout.printMembers, Layout.indented]
  | (key, value) :: members => by
      simp [indentedMembers, Layout.printMembers, indented_eq (depth + 1) value,
        indentedMembers_eq depth members, Layout.indented]

end

/-! ## Printed texts -/

section Written

variable {layout : Layout}

theorem Layout.line_blanks (depth : Nat) (s : List Char) : Blanks (layout.line depth ++ s) s :=
  ⟨_, rfl, layout.blank_line depth⟩

theorem Layout.gap_blanks (s : List Char) : Blanks (layout.gap ++ s) s :=
  ⟨_, rfl, layout.blank_gap⟩

theorem Layout.written_member (first : Bool) {depth : Nat} {key : String} {tree : Tree}
    {members : List (List Char × Tree)} {s t u : List Char}
    (hvalue : Written (.value tree) s t) (hmembers : Written (.members false members) t u) :
    Written (.members first ((escapedText key, tree) :: members))
      ((if first then [] else [',']) ++ (layout.line depth ++
        (stringText key ++ ':' :: (layout.gap ++ s)))) u := by
  rw [stringText_append]
  refine .member ?_ (body_flatMap_escapedChar key.toList _) (.refl _) (layout.gap_blanks s) hvalue
    hmembers
  cases first with
  | true => exact layout.line_blanks depth _
  | false => exact ⟨_, .refl _, layout.line_blanks depth _⟩

theorem Layout.written_item (first : Bool) {depth : Nat} {tree : Tree} {items : List Tree}
    {s t u : List Char} (hvalue : Written (.value tree) s t)
    (hitems : Written (.items false items) t u) :
    Written (.items first (tree :: items))
      ((if first then [] else [',']) ++ (layout.line depth ++ s)) u := by
  refine .item ?_ hvalue hitems
  cases first with
  | true => exact layout.line_blanks depth _
  | false => exact ⟨_, .refl _, layout.line_blanks depth _⟩

mutual

theorem Layout.written (depth : Nat) (t : List Char) :
    ∀ a : Value, a.Plain → Written (.value a.tree) (layout.print depth a ++ t) t
  | .null, _ => by
      simp only [Layout.print, Value.tree]
      exact .null
  | .boolean true, _ => by
      simp only [Layout.print, Value.tree]
      exact .trueWord
  | .boolean false, _ => by
      simp only [Layout.print, Value.tree]
      exact .falseWord
  | .number _, h => nomatch h
  | .string text, _ => by
      simp only [Layout.print, Value.tree, scalarText]
      rw [stringText_append]
      exact .string (body_flatMap_escapedChar text.toList t)
  | .array [], _ => by
      simp only [Layout.print, Value.tree, treesOf]
      exact .array (.noItem (.refl _))
  | .array (item :: items), .array h => by
      obtain ⟨hitem, hitems⟩ := List.forall_mem_cons.mp h
      simp only [Layout.print, Value.tree, treesOf, List.cons_append, List.append_assoc]
      exact .array (Layout.written_item true (Layout.written (depth + 1) _ item hitem)
        (Layout.written_items depth t items hitems))
  | .object [], _ => by
      simp only [Layout.print, Value.tree, memberTreesOf]
      exact .object (.noMember (.refl _))
  | .object ((key, value) :: members), .object h => by
      obtain ⟨hvalue, hmembers⟩ := List.forall_mem_cons.mp h
      simp only [Layout.print, Value.tree, memberTreesOf, List.cons_append, List.append_assoc]
      exact .object (Layout.written_member true
        (Layout.written (depth + 1) _ value hvalue)
        (Layout.written_members depth t members hmembers))

theorem Layout.written_items (depth : Nat) (t : List Char) :
    ∀ items : List Value, (∀ item ∈ items, item.Plain) →
      Written (.items false (treesOf items)) (layout.printItems depth items ++ t) (']' :: t)
  | [], _ => by
      simp only [Layout.printItems, treesOf, List.append_assoc]
      exact .noItem (layout.line_blanks depth _)
  | item :: items, h => by
      obtain ⟨hitem, hitems⟩ := List.forall_mem_cons.mp h
      simp only [Layout.printItems, treesOf, List.cons_append, List.append_assoc]
      exact Layout.written_item false (Layout.written (depth + 1) _ item hitem)
        (Layout.written_items depth t items hitems)

theorem Layout.written_members (depth : Nat) (t : List Char) :
    ∀ members : List (String × Value), (∀ member ∈ members, member.2.Plain) →
      Written (.members false (memberTreesOf members)) (layout.printMembers depth members ++ t)
        ('\x7d' :: t)
  | [], _ => by
      simp only [Layout.printMembers, memberTreesOf, List.append_assoc]
      exact .noMember (layout.line_blanks depth _)
  | (key, value) :: members, h => by
      obtain ⟨hvalue, hmembers⟩ := List.forall_mem_cons.mp h
      simp only [Layout.printMembers, memberTreesOf, List.cons_append, List.append_assoc]
      exact Layout.written_member false (Layout.written (depth + 1) _ value hvalue)
        (Layout.written_members depth t members hmembers)

end

end Written

theorem Layout.isTreeOf (layout : Layout) {a : Value} (h : a.Plain) :
    a.tree.IsTreeOf (layout.print 0 a) := by
  have hwritten := @Layout.written layout 0 [] a h
  rw [List.append_nil] at hwritten
  exact ⟨_, [], .refl _, hwritten, .refl _⟩

theorem written_compact {a : Value} (h : a.Plain) (t : List Char) :
    Written (.value a.tree) (compact a ++ t) t := by
  rw [compact_eq 0]
  exact Layout.written 0 t a h

theorem isTreeOf_compact {a : Value} (h : a.Plain) : a.tree.IsTreeOf (compact a) := by
  rw [compact_eq 0]
  exact Layout.tight.isTreeOf h

theorem isTreeOf_indented {a : Value} (h : a.Plain) : a.tree.IsTreeOf (Printer.indented 0 a) := by
  rw [indented_eq]
  exact Layout.indented.isTreeOf h

end TableLineage.Json
