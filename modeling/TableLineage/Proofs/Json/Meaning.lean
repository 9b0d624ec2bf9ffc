import Mathlib.Data.List.Forall2
import TableLineage.Proofs.Json.Numbers

/-!
# What a tree is kept as

A tree whose strings and numbers have the right form is valid, and nothing else
is asked of a value that is skipped.  A value that is kept has to fit as well:
its numbers are in range, no surrogate stands alone in its strings, and it nests
no deeper than it may.
-/

namespace TableLineage.Json

inductive Tree.Valid : Tree → Prop
  | null : Valid .null
  | boolean : Valid (.boolean value)
  | number : IsNumber negative n text → Valid (.number text)
  | string : Reader.Spellable body → Valid (.string body)
  | array : (∀ item ∈ items, Valid item) → Valid (.array items)
  | object : (∀ member ∈ members, Reader.Spellable member.1) →
      (∀ member ∈ members, Valid member.2) → Valid (.object members)

inductive KeepsScalar : Value → Tree → Prop
  | null : KeepsScalar .null .null
  | boolean : KeepsScalar (.boolean value) (.boolean value)
  | number : IsNumber negative n text → n.numeral? negative = some numeral →
      KeepsScalar (.number numeral) (.number text)
  | string : Reader.Spells body text → KeepsScalar (.string text) (.string body)

def KeepsMember (Inner : Value → Tree → Prop) (found : String × Value)
    (member : List Char × Tree) : Prop :=
  Reader.Spells member.1 found.1 ∧ Inner found.2 member.2

inductive KeepsComposite (Inner : Value → Tree → Prop) : Value → Tree → Prop
  | array : List.Forall₂ Inner values items → KeepsComposite Inner (.array values) (.array items)
  | object : List.Forall₂ (KeepsMember Inner) found members →
      KeepsComposite Inner (.object found) (.object members)

/-- The value that a tree is kept as where so many composite values may be opened. -/
def Keeps : Nat → Value → Tree → Prop
  | 0, a, tree => KeepsScalar a tree
  | depth + 1, a, tree => KeepsScalar a tree ∨ KeepsComposite (Keeps depth) a tree

def Kept (depth : Nat) (tree : Tree) : Prop := ∃ a, Keeps depth a tree

inductive KeepsWithin (Inner : Nat → Value → Tree → Prop) : Nat → Value → Tree → Prop
  | scalar : KeepsScalar a tree → KeepsWithin Inner depth a tree
  | composite : KeepsComposite (Inner depth) a tree → KeepsWithin Inner (depth + 1) a tree

def Optionally {α : Type} (Fits : α → Tree → Prop) (a : Option α) (tree : Tree) : Prop :=
  (a = none ∧ tree = .null) ∨ ∃ b, a = some b ∧ Fits b tree

inductive Each (Fits : Nat → α → Tree → Prop) : Nat → List α → Tree → Prop
  | array : List.Forall₂ (Fits depth) found items → Each Fits (depth + 1) found (.array items)

inductive Folds (Step : String → Tree → σ → σ → Prop) : List (List Char × Tree) → σ → σ → Prop
  | nil : Folds Step [] state state
  | cons : Reader.Spells body name → Step name tree state state₁ →
      Folds Step rest state₁ state' → Folds Step ((body, tree) :: rest) state state'

inductive FieldStep (fields : List (Reader.FieldReader σ)) (Sets : String → Tree → σ → σ → Prop)
    (name : String) (tree : Tree) : List String × σ → List String × σ → Prop
  | field : (∃ field ∈ fields, field.name = name) → name ∉ seen → Sets name tree state state' →
      FieldStep fields Sets name tree (seen, state) (name :: seen, state')
  | other : (∀ field ∈ fields, field.name ≠ name) → tree.Valid →
      FieldStep fields Sets name tree (seen, state) (seen, state)

inductive FieldItems (Sets : String → Tree → σ → σ → Prop) :
    List (Reader.FieldReader σ) → List Tree → σ → σ → Prop
  | nil : FieldItems Sets [] [] state state
  | cons {field fields tree items state state₁ state'} : Sets field.name tree state state₁ →
      FieldItems Sets fields items state₁ state' →
      FieldItems Sets (field :: fields) (tree :: items) state state'
  | trailing {field fields state state'} : field.trailing = true →
      FieldItems Sets fields [] state state' → FieldItems Sets (field :: fields) [] state state'

inductive KeepsRecord (fields : List (Reader.FieldReader σ))
    (Sets : Nat → String → Tree → σ → σ → Prop) (start : σ) : Nat → σ → Tree → Prop
  | items : FieldItems (Sets depth) fields items start state →
      KeepsRecord fields Sets start (depth + 1) state (.array items)
  | members : Folds (FieldStep fields (Sets depth)) members ([], start) (seen, state) →
      (∀ field ∈ fields, field.required = true → field.name ∈ seen) →
      KeepsRecord fields Sets start (depth + 1) state (.object members)

theorem Folds.append_iff {σ : Type} {Step : String → Tree → σ → σ → Prop}
    {front back : List (List Char × Tree)} {state state' : σ} :
    Folds Step (front ++ back) state state' ↔
      ∃ middle, Folds Step front state middle ∧ Folds Step back middle state' := by
  constructor
  · intro h
    induction front generalizing state with
    | nil => exact ⟨state, .nil, h⟩
    | cons member front ih =>
        cases h with
        | cons hname hstep hrest =>
            obtain ⟨middle, hfront, hback⟩ := ih hrest
            exact ⟨middle, .cons hname hstep hfront, hback⟩
  · rintro ⟨middle, hfront, hback⟩
    induction hfront with
    | nil => exact hback
    | cons hname hstep _ ih => exact .cons hname hstep (ih hback)

theorem mapM_text?_iff {values : List Value} {lines : List String} :
    values.mapM Value.text? = some lines ↔ values = lines.map .string := by
  constructor
  · intro h
    induction values generalizing lines with
    | nil =>
        cases h
        rfl
    | cons a values ih =>
        simp only [List.mapM_cons, Option.bind_eq_bind, Option.pure_def, Option.bind_eq_some_iff,
          Option.some.injEq] at h
        obtain ⟨line, hline, lines, hlines, rfl⟩ := h
        rw [List.map_cons, ← ih hlines]
        cases a with
        | string text =>
            cases hline
            rfl
        | _ => cases hline
  · rintro rfl
    induction lines with
    | nil => rfl
    | cons line lines ih =>
        rw [List.map_cons, List.mapM_cons, ih]
        rfl

theorem Reader.Spells.spellable {body : List Char} {text : String} (h : Spells body text) :
    Spellable body := by
  refine ⟨h.clean, ?_⟩
  have htext := h.text
  cases hunits : bodyUnits? body with
  | none => simp [bodyText?, hunits] at htext
  | some units => rfl

theorem KeepsComposite.imp {Inner Inner' : Value → Tree → Prop} {a : Value} {tree : Tree}
    (h : KeepsComposite Inner a tree) (himp : ∀ a tree, Inner a tree → Inner' a tree) :
    KeepsComposite Inner' a tree := by
  cases h with
  | array hitems => exact .array (hitems.imp himp)
  | object hmembers => exact .object (hmembers.imp fun _ _ h => ⟨h.1, himp _ _ h.2⟩)

theorem Each.keeps {Inner : Nat → Value → Tree → Prop} {depth : Nat} {values : List Value}
    {tree : Tree} (h : Each Inner depth values tree) :
    KeepsWithin Inner depth (.array values) tree := by
  cases h with
  | array hitems => exact .composite (.array hitems)

theorem keeps_iff {depth : Nat} {a : Value} {tree : Tree} :
    Keeps depth a tree ↔ KeepsWithin Keeps depth a tree := by
  constructor
  · intro h
    cases depth with
    | zero => exact .scalar h
    | succ depth => exact h.elim .scalar .composite
  · intro h
    cases h with
    | scalar h => cases depth with
      | zero => exact h
      | succ depth => exact .inl h
    | composite h => exact .inr h

/-- What the limits of kept values are that a valid value can break: numbers in range, surrogates
in pairs, and so many composite values inside of each other. -/
inductive Tree.Refused : Nat → Tree → Prop
  | number : (∀ negative n, IsNumber negative n text → n.numeral? negative = none) →
      Refused depth (.number text)
  | string : bodyText? body = none → Refused depth (.string body)
  | key : member ∈ members → bodyText? member.1 = none → Refused depth (.object members)
  | array : Refused 0 (.array items)
  | object : Refused 0 (.object members)
  | item : tree ∈ items → Refused depth tree → Refused (depth + 1) (.array items)
  | member : entry ∈ members → Refused depth entry.2 → Refused (depth + 1) (.object members)

section Kept

variable {depth : Nat} {tree : Tree} {text body : List Char} {items : List Tree}
  {members : List (List Char × Tree)}

theorem exists_forall₂_iff {α β : Type} {R : α → β → Prop} {bs : List β} :
    (∃ as, List.Forall₂ R as bs) ↔ ∀ b ∈ bs, ∃ a, R a b := by
  constructor
  · rintro ⟨as, h⟩
    induction h with
    | nil => simp
    | cons h _ ih => exact List.forall_mem_cons.mpr ⟨⟨_, h⟩, ih⟩
  · intro h
    induction bs with
    | nil => exact ⟨[], .nil⟩
    | cons b bs ih =>
        obtain ⟨⟨a, ha⟩, hbs⟩ := List.forall_mem_cons.mp h
        obtain ⟨as, has⟩ := ih hbs
        exact ⟨a :: as, .cons ha has⟩

theorem kept_number_iff :
    Kept depth (.number text) ↔ ∃ negative n, IsNumber negative n text ∧
      n.numeral? negative ≠ none := by
  constructor
  · rintro ⟨a, h⟩
    rcases keeps_iff.mp h with h | h
    · cases h with
      | number hnumber hnumeral => exact ⟨_, _, hnumber, by simp [hnumeral]⟩
    · cases h
  · rintro ⟨negative, n, hnumber, hnumeral⟩
    obtain ⟨numeral, hnumeral⟩ := Option.ne_none_iff_exists'.mp hnumeral
    exact ⟨.number numeral, keeps_iff.mpr (.scalar (.number hnumber hnumeral))⟩

theorem kept_string_iff : Kept depth (.string body) ↔ ∃ text, Reader.Spells body text := by
  constructor
  · rintro ⟨a, h⟩
    rcases keeps_iff.mp h with h | h
    · cases h with
      | string htext => exact ⟨_, htext⟩
    · cases h
  · rintro ⟨text, htext⟩
    exact ⟨.string text, keeps_iff.mpr (.scalar (.string htext))⟩

theorem kept_array_iff : Kept (depth + 1) (.array items) ↔ ∀ item ∈ items, Kept depth item := by
  rw [show (∀ item ∈ items, Kept depth item) ↔ _ from exists_forall₂_iff.symm]
  constructor
  · rintro ⟨a, h⟩
    rcases keeps_iff.mp h with h | h
    · cases h
    · cases h with
      | array hitems => exact ⟨_, hitems⟩
  · rintro ⟨values, hitems⟩
    exact ⟨.array values, .inr (.array hitems)⟩

theorem kept_object_iff : Kept (depth + 1) (.object members) ↔
    ∀ member ∈ members, (∃ name, Reader.Spells member.1 name) ∧ Kept depth member.2 := by
  have hmembers :
      (∀ member ∈ members, (∃ name, Reader.Spells member.1 name) ∧ Kept depth member.2) ↔
        ∃ found, List.Forall₂ (KeepsMember (Keeps depth)) found members := by
    rw [exists_forall₂_iff]
    refine forall₂_congr fun member _ => ?_
    constructor
    · rintro ⟨⟨name, hname⟩, a, ha⟩
      exact ⟨(name, a), hname, ha⟩
    · rintro ⟨⟨name, a⟩, hname, ha⟩
      exact ⟨⟨name, hname⟩, a, ha⟩
  rw [hmembers]
  constructor
  · rintro ⟨a, h⟩
    rcases keeps_iff.mp h with h | h
    · cases h
    · cases h with
      | object hfound => exact ⟨_, hfound⟩
  · rintro ⟨found, hfound⟩
    exact ⟨.object found, .inr (.object hfound)⟩

theorem Reader.Spellable.exists_spells_iff (h : Spellable body) :
    (∃ text, Reader.Spells body text) ↔ bodyText? body ≠ none := by
  constructor
  · rintro ⟨text, htext⟩
    simp [htext.text]
  · intro hne
    obtain ⟨text, htext⟩ := Option.ne_none_iff_exists'.mp hne
    exact ⟨text, h.clean, htext⟩

theorem Tree.Valid.kept_iff (h : tree.Valid) : Kept depth tree ↔ ¬ tree.Refused depth := by
  induction h generalizing depth with
  | null => exact ⟨fun _ => by rintro ⟨⟩, fun _ => ⟨.null, keeps_iff.mpr (.scalar .null)⟩⟩
  | boolean => exact ⟨fun _ => by rintro ⟨⟩, fun _ => ⟨_, keeps_iff.mpr (.scalar .boolean)⟩⟩
  | number _ =>
      rw [kept_number_iff]
      constructor
      · rintro ⟨negative, n, hnumber, hne⟩ ⟨hnone⟩
        exact hne (hnone negative n hnumber)
      · intro h
        by_contra hnone
        push Not at hnone
        exact h (.number hnone)
  | string hbody =>
      rw [kept_string_iff, hbody.exists_spells_iff]
      exact not_congr ⟨.string, fun | .string h => h⟩
  | @array items _ ih =>
      cases depth with
      | zero =>
          refine ⟨?_, fun h => (h .array).elim⟩
          rintro ⟨_, ⟨⟩⟩
      | succ depth =>
          rw [kept_array_iff]
          constructor
          · rintro h (_ | _ | _ | _ | _ | ⟨hmem, hrefused⟩)
            exact (ih _ hmem).mp (h _ hmem) hrefused
          · exact fun h item hmem => (ih item hmem).mpr fun hrefused => h (.item hmem hrefused)
  | @object members hkeys _ ih =>
      cases depth with
      | zero =>
          refine ⟨?_, fun h => (h .object).elim⟩
          rintro ⟨_, ⟨⟩⟩
      | succ depth =>
          rw [kept_object_iff]
          constructor
          · rintro h hrefused
            cases hrefused with
            | key hmem hnone => exact (hkeys _ hmem).exists_spells_iff.mp (h _ hmem).1 hnone
            | member hmem hrefused => exact (ih _ hmem).mp (h _ hmem).2 hrefused
          · intro h member hmem
            exact ⟨(hkeys member hmem).exists_spells_iff.mpr fun hnone => h (.key hmem hnone),
              (ih member hmem).mpr fun hrefused => h (.member hmem hrefused)⟩

end Kept

/-! ## Parts of records

What a record holds in a part of it comes from the one member that sets this part. -/

section Records

def SetsPart (Sets : String → Tree → σ → σ → Prop) (name : String) (get : σ → β)
    (Fits : β → Tree → Prop) : Prop :=
  ∀ other tree state state', Sets other tree state state' →
    if other = name then Fits (get state') tree else get state' = get state

variable {σ β : Type} {fields : List (Reader.FieldReader σ)}
  {Sets : String → Tree → σ → σ → Prop} {get : σ → β} {Fits : β → Tree → Prop} {name : String}
  {members : List (List Char × Tree)} {before after : List String × σ}

theorem Folds.get_of_seen (hpart : SetsPart Sets name get Fits)
    (h : Folds (FieldStep fields Sets) members before after) (hseen : name ∈ before.1) :
    get after.2 = get before.2 := by
  induction h with
  | nil => rfl
  | @cons _ other _ _ _ _ _ _ hstep _ ih =>
      cases hstep with
      | field hfield hunseen hsets =>
          have hother : other ≠ name := by
            rintro rfl
            exact hunseen hseen
          have hkeeps := hpart _ _ _ _ hsets
          rw [if_neg hother] at hkeeps
          rw [ih (List.mem_cons_of_mem _ hseen), hkeeps]
      | other => exact ih hseen

theorem Folds.get_of_unseen (hpart : SetsPart Sets name get Fits)
    (hname : name ∈ fields.map (·.name))
    (h : Folds (FieldStep fields Sets) members before after) (hunseen : name ∉ before.1) :
    (memberOf? name members = none ∧ get after.2 = get before.2) ∨
      ∃ tree, memberOf? name members = some tree ∧ Fits (get after.2) tree := by
  induction h with
  | nil => exact .inl ⟨rfl, rfl⟩
  | @cons body other tree _ _ rest _ hbody hstep hrest ih =>
      cases hstep with
      | @field seen state state₁ hfield hother hsets =>
          have hset := hpart _ _ _ _ hsets
          by_cases heq : other = name
          · rw [if_pos heq] at hset
            subst heq
            refine .inr ⟨tree, by rw [memberOf?, if_pos hbody.text], ?_⟩
            rw [hrest.get_of_seen hpart List.mem_cons_self]
            exact hset
          · rw [if_neg heq] at hset
            have hbody' : bodyText? body ≠ some name := by simpa [hbody.text] using heq
            rw [memberOf?, if_neg hbody', ← hset]
            exact ih (by simpa [Ne.symm heq] using hunseen)
      | other hother =>
          obtain ⟨field, hmem, hfield⟩ := List.mem_map.mp hname
          have hbody' : bodyText? body ≠ some name := by
            rw [hbody.text, ne_eq, Option.some.injEq]
            rintro rfl
            exact hother field hmem hfield
          rw [memberOf?, if_neg hbody']
          exact ih hunseen

end Records

end TableLineage.Json
