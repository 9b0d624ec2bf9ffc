import TableLineage.Json.Reader
import TableLineage.Text.Utf16

/-!
# JSON texts as trees

A tree is a JSON value as it is written, without the blanks.  A text is the text
of one tree at most.  Numbers and escapes are only told apart here from what
stands around them; what they may look like is up to the readers.
-/

namespace TableLineage.Json

/-- A string is given by what stands between its quotes. -/
inductive Tree
  | null
  | boolean (value : Bool)
  | number (text : List Char)
  | string (body : List Char)
  | array (items : List Tree)
  | object (members : List (List Char × Tree))

def bodyUnits? : List Char → Option (List Nat)
  | [] => some []
  | '\\' :: 'u' :: a :: b :: c :: d :: body => do
      some ((← Reader.hexValue? [a, b, c, d]) :: (← bodyUnits? body))
  | '\\' :: c :: body => do
      some (Text.Utf16.unitsOfChar (← Reader.simpleEscape? c) ++ (← bodyUnits? body))
  | c :: body => do some (Text.Utf16.unitsOfChar c ++ (← bodyUnits? body))

def bodyText? (body : List Char) : Option String := do
  some (String.ofList (← Text.Utf16.chars? (← bodyUnits? body)))

def Tree.text? : Tree → Option String
  | .string body => bodyText? body
  | _ => none

def memberOf? (name : String) : List (List Char × Tree) → Option Tree
  | [] => none
  | (body, tree) :: members =>
      if bodyText? body = some name then some tree else memberOf? name members

/-- A value, or what stands between the brackets of a composite one, all of it or from behind
an item on. -/
inductive Part
  | value (tree : Tree)
  | items (first : Bool) (items : List Tree)
  | members (first : Bool) (members : List (List Char × Tree))

def Across (accepts : Char → Bool) (s t : List Char) : Prop :=
  ∃ taken, s = taken ++ t ∧ ∀ c ∈ taken, accepts c = true

abbrev Blanks (s t : List Char) : Prop := Across Cursor.isBlank s t

def isNumberChar (c : Char) : Bool := Reader.isDigit c || ['-', '+', '.', 'e', 'E'].contains c

inductive Body : List Char → List Char → List Char → Prop
  | close : Body [] ('"' :: t) t
  | plain : c ≠ '"' → c ≠ '\\' → Body body s t → Body (c :: body) (c :: s) t
  | escaped : Body body s t → Body ('\\' :: c :: body) ('\\' :: c :: s) t

def Separated : Bool → List Char → List Char → Prop
  | true, s, t => Blanks s t
  | false, s, t => ∃ middle, Blanks s (',' :: middle) ∧ Blanks middle t

inductive Written : Part → List Char → List Char → Prop
  | null : Written (.value .null) ('n' :: 'u' :: 'l' :: 'l' :: t) t
  | trueWord : Written (.value (.boolean true)) ('t' :: 'r' :: 'u' :: 'e' :: t) t
  | falseWord : Written (.value (.boolean false)) ('f' :: 'a' :: 'l' :: 's' :: 'e' :: t) t
  | number : c = '-' ∨ Reader.isDigit c = true → (∀ d ∈ text, isNumberChar d = true) →
      s = text ++ t → Written (.value (.number (c :: text))) (c :: s) t
  | string : Body body s t → Written (.value (.string body)) ('"' :: s) t
  | array : Written (.items true items) s (']' :: t) →
      Written (.value (.array items)) ('[' :: s) t
  | object : Written (.members true members) s ('\x7d' :: t) →
      Written (.value (.object members)) ('\x7b' :: s) t
  | noItem : Blanks s t → Written (.items first []) s t
  | item : Separated first s s₁ → Written (.value tree) s₁ s₂ →
      Written (.items false items) s₂ t → Written (.items first (tree :: items)) s t
  | noMember : Blanks s t → Written (.members first []) s t
  | member : Separated first s ('"' :: s₁) → Body key s₁ s₂ → Blanks s₂ (':' :: s₃) →
      Blanks s₃ s₄ → Written (.value tree) s₄ s₅ → Written (.members false members) s₅ t →
      Written (.members first ((key, tree) :: members)) s t

/-- The whole text is the tree, with blanks around it. -/
def Tree.IsTreeOf (tree : Tree) (text : List Char) : Prop :=
  ∃ s t, Blanks text s ∧ Written (.value tree) s t ∧ Blanks t []

section Across

variable {accepts : Char → Bool} {c : Char} {s t u : List Char}

theorem Across.refl (s : List Char) : Across accepts s s := ⟨[], rfl, by simp⟩

theorem Across.trans (h : Across accepts s t) (h' : Across accepts t u) : Across accepts s u := by
  obtain ⟨taken, rfl, htaken⟩ := h
  obtain ⟨taken', rfl, htaken'⟩ := h'
  refine ⟨taken ++ taken', (List.append_assoc ..).symm, fun c hc => ?_⟩
  exact (List.mem_append.mp hc).elim (htaken c) (htaken' c)

/-- They lead to the first character that is not of the kind, if only to one such character. -/
theorem Across.eq_dropWhile (h : Across accepts s (c :: t)) (hc : accepts c = false) :
    c :: t = s.dropWhile accepts := by
  obtain ⟨taken, rfl, htaken⟩ := h
  rw [List.dropWhile_append_of_pos htaken, List.dropWhile_cons_of_neg (by simp [hc])]

theorem Across.head? (h : Across accepts s t) :
    s = t ∨ ∃ c, s.head? = some c ∧ accepts c = true := by
  obtain ⟨taken, rfl, htaken⟩ := h
  cases taken with
  | nil => exact .inl rfl
  | cons c taken => exact .inr ⟨c, rfl, htaken c List.mem_cons_self⟩

end Across

theorem isBlank_iff {c : Char} :
    Cursor.isBlank c = true ↔ c = ' ' ∨ c = '\n' ∨ c = '\t' ∨ c = '\r' := by
  simp [Cursor.isBlank, or_assoc]

theorem isNumberChar_of_isBlank {c : Char} (h : Cursor.isBlank c = true) :
    isNumberChar c = false := by
  rcases isBlank_iff.mp h with rfl | rfl | rfl | rfl <;> decide

theorem bodyUnits?_plain {c : Char} {body : List Char} {units : List Nat} (hc : c ≠ '\\')
    (h : bodyUnits? body = some units) :
    bodyUnits? (c :: body) = some (Text.Utf16.unitsOfChar c ++ units) := by
  rw [bodyUnits?, h]
  · rfl
  · rintro a b c' d body' rfl
    exact absurd rfl hc
  · rintro c' body' rfl
    exact absurd rfl hc

theorem Separated.after_blanks {first : Bool} {s t u : List Char} (h : Blanks s t)
    (h' : Separated first t u) : Separated first s u := by
  cases first with
  | true => exact h.trans h'
  | false =>
      obtain ⟨middle, hcomma, h'⟩ := h'
      exact ⟨middle, h.trans hcomma, h'⟩

theorem Written.items_after_blanks {items : List Tree} {first : Bool} {s t u : List Char}
    (h : Blanks s t) (h' : Written (.items first items) t u) :
    Written (.items first items) s u := by
  cases h' with
  | noItem hblanks => exact .noItem (h.trans hblanks)
  | item hseparated hvalue hitems => exact .item (hseparated.after_blanks h) hvalue hitems

theorem Separated.blanks {first : Bool} {s t u : List Char} (h : Separated first s t)
    (h' : Blanks t u) : Separated first s u := by
  cases first with
  | true => exact h.trans h'
  | false =>
      obtain ⟨middle, hcomma, h⟩ := h
      exact ⟨middle, hcomma, h.trans h'⟩

theorem Written.items_blanks {items : List Tree} {first : Bool} {s t u : List Char}
    (h : Written (.items first items) s t) (h' : Blanks t u) :
    Written (.items first items) s u := by
  induction items generalizing first s with
  | nil =>
      cases h with
      | noItem hblanks => exact .noItem (hblanks.trans h')
  | cons tree items ih =>
      cases h with
      | item hseparated hvalue hitems => exact .item hseparated hvalue (ih hitems)

theorem Written.members_blanks {members : List (List Char × Tree)} {first : Bool}
    {s t u : List Char} (h : Written (.members first members) s t) (h' : Blanks t u) :
    Written (.members first members) s u := by
  induction members generalizing first s with
  | nil =>
      cases h with
      | noMember hblanks => exact .noMember (hblanks.trans h')
  | cons member members ih =>
      cases h with
      | member hseparated hbody hcolon hblanks hvalue hmembers =>
          exact .member hseparated hbody hcolon hblanks hvalue (ih hmembers)

/-! ## A text has one tree -/

section Unique

variable {body body' s t t' u : List Char} {c c' : Char} {first : Bool}

theorem Body.unique (h : Body body s t) (h' : Body body' s t') : body = body' ∧ t = t' := by
  induction h generalizing body' t' with
  | close =>
      cases h' with
      | close => exact ⟨rfl, rfl⟩
      | plain hquote => exact absurd rfl hquote
  | plain hquote hslash _ ih =>
      cases h' with
      | close => exact absurd rfl hquote
      | plain _ _ h' =>
          obtain ⟨rfl, rfl⟩ := ih h'
          exact ⟨rfl, rfl⟩
      | escaped => exact absurd rfl hslash
  | escaped _ ih =>
      cases h' with
      | plain _ hslash => exact absurd rfl hslash
      | escaped h' =>
          obtain ⟨rfl, rfl⟩ := ih h'
          exact ⟨rfl, rfl⟩

def isPlain (body : List Char) : Bool := body.all fun c => c != '"' && c != '\\'

theorem Body.of_isPlain (h : isPlain body = true) : Body body (body ++ '"' :: t) t := by
  induction body with
  | nil => exact .close
  | cons c body ih =>
      obtain ⟨⟨hquote, hslash⟩, h⟩ : (c ≠ '"' ∧ c ≠ '\\') ∧ isPlain body = true := by
        simpa [isPlain] using h
      exact .plain hquote hslash (ih h)

theorem Blanks.unique (h : Blanks s (c :: t)) (hc : Cursor.isBlank c = false)
    (h' : Blanks s (c' :: t')) (hc' : Cursor.isBlank c' = false) : c :: t = c' :: t' := by
  rw [h.eq_dropWhile hc, h'.eq_dropWhile hc']

theorem Separated.unique (h : Separated first s (c :: t)) (hc : Cursor.isBlank c = false)
    (h' : Separated first s (c' :: t')) (hc' : Cursor.isBlank c' = false) :
    c :: t = c' :: t' := by
  cases first with
  | true => exact Blanks.unique h hc h' hc'
  | false =>
      obtain ⟨middle, hcomma, h⟩ := h
      obtain ⟨middle', hcomma', h'⟩ := h'
      cases Blanks.unique hcomma rfl hcomma' rfl
      exact Blanks.unique h hc h' hc'

/-- What can stand at the end of a list or an object, and so not in front of an item or member. -/
def Closer (c : Char) : Prop := c = ']' ∨ c = '\x7d'

theorem Closer.isBlank (h : Closer c) : Cursor.isBlank c = false := by
  rcases h with rfl | rfl <;> rfl

theorem Separated.ne_closer (h : Separated first s (c :: t)) (hc : Cursor.isBlank c = false)
    (h' : Blanks s (c' :: t')) (hc' : Closer c') : c = c' := by
  cases first with
  | true => exact (List.cons.inj (Blanks.unique h hc h' hc'.isBlank)).1
  | false =>
      obtain ⟨middle, hcomma, -⟩ := h
      have heq := (List.cons.inj (Blanks.unique hcomma rfl h' hc'.isBlank)).1
      rcases hc' with rfl | rfl <;> cases heq

def OpensValue (c : Char) : Prop := Cursor.isBlank c = false ∧ ¬ Closer c

theorem isNumberChar_of_opens {c : Char} (h : c = '-' ∨ Reader.isDigit c = true) :
    isNumberChar c = true := by
  rcases h with rfl | h
  · rfl
  · rw [isNumberChar, h, Bool.true_or]

theorem ne_of_isNumberChar {c c' : Char} (h : isNumberChar c = true)
    (h' : isNumberChar c' = false) : c ≠ c' := by
  rintro rfl
  rw [h] at h'
  cases h'

theorem Written.exists_cons {tree : Tree} (h : Written (.value tree) s t) :
    ∃ c rest, s = c :: rest ∧ OpensValue c := by
  cases h with
  | number hc =>
      have hnumber := isNumberChar_of_opens hc
      refine ⟨_, _, rfl, Bool.eq_false_iff.mpr fun hblank => ?_, ?_⟩
      · rw [isNumberChar_of_isBlank hblank] at hnumber
        cases hnumber
      · rintro (h | h)
        · exact ne_of_isNumberChar hnumber rfl h
        · exact ne_of_isNumberChar hnumber rfl h
  | _ => exact ⟨_, _, rfl, rfl, by rintro (h | h) <;> cases h⟩

theorem Written.items_of_closer {items : List Tree} (h : Written (.items first items) s t)
    (hs : s.head? = some ']') : items = [] := by
  obtain ⟨s, rfl⟩ := List.head?_eq_some_iff.mp hs
  cases h with
  | noItem => rfl
  | item hseparated hvalue =>
      obtain ⟨c, rest, rfl, hblank, hcloser⟩ := hvalue.exists_cons
      exact absurd (hseparated.ne_closer hblank (.refl _) (.inl rfl)) fun h => hcloser (.inl h)

def Ends (t : List Char) : Prop := ∀ c, t.head? = some c → isNumberChar c = false

theorem Blanks.ends (h : Blanks s t) (ht : Ends t) : Ends s := by
  obtain rfl | ⟨c, hhead, hblank⟩ := h.head?
  · exact ht
  · intro d hd
    rw [hhead, Option.some.injEq] at hd
    exact hd ▸ isNumberChar_of_isBlank hblank

theorem ends_cons (h : isNumberChar c = false) : Ends (c :: t) := by
  intro d hd
  rw [List.head?_cons, Option.some.injEq] at hd
  exact hd ▸ h

theorem Separated.ends (h : Separated false s t) : Ends s := by
  obtain ⟨middle, hcomma, -⟩ := h
  exact hcomma.ends (ends_cons rfl)

def Part.SameKind : Part → Part → Prop
  | .value _, .value _ => True
  | .items first _, .items first' _ => first = first'
  | .members first _, .members first' _ => first = first'
  | _, _ => False

def Part.Stops : Part → List Char → Prop
  | .value _, t => Ends t
  | .items .., t => t.head? = some ']'
  | .members .., t => t.head? = some '\x7d'

theorem Written.ends_of_items {items : List Tree} (h : Written (.items false items) s t)
    (ht : t.head? = some ']') : Ends s := by
  cases h with
  | noItem hblanks =>
      refine hblanks.ends fun c hc => ?_
      rw [ht, Option.some.injEq] at hc
      exact hc ▸ rfl
  | item hseparated => exact hseparated.ends

theorem Written.ends_of_members {members : List (List Char × Tree)}
    (h : Written (.members false members) s t) (ht : t.head? = some '\x7d') : Ends s := by
  cases h with
  | noMember hblanks =>
      refine hblanks.ends fun c hc => ?_
      rw [ht, Option.some.injEq] at hc
      exact hc ▸ rfl
  | member hseparated => exact hseparated.ends

theorem not_opensNumber {c : Char} (h : isNumberChar c = false) :
    ¬ (c = '-' ∨ Reader.isDigit c = true) :=
  fun hc => ne_of_isNumberChar (isNumberChar_of_opens hc) h rfl

theorem number_unique {text text' : List Char} (h : text ++ t = text' ++ t')
    (htext : ∀ c ∈ text, isNumberChar c = true) (htext' : ∀ c ∈ text', isNumberChar c = true)
    (ht : Ends t) (ht' : Ends t') : text = text' ∧ t = t' := by
  have htaken {text t : List Char} (htext : ∀ c ∈ text, isNumberChar c = true) (ht : Ends t) :
      (text ++ t).takeWhile isNumberChar = text := by
    rw [List.takeWhile_append_of_pos htext]
    cases t with
    | nil => exact List.append_nil text
    | cons c t => rw [List.takeWhile_cons_of_neg (by simp [ht c rfl]), List.append_nil]
  obtain rfl : text = text' := by rw [← htaken htext ht, h, htaken htext' ht']
  exact ⟨rfl, List.append_cancel_left h⟩

theorem Written.unique {part part' : Part} (h : Written part s t) (h' : Written part' s t')
    (hkind : part.SameKind part') (hstops : part.Stops t) (hstops' : part'.Stops t') :
    part = part' ∧ t = t' := by
  induction h generalizing part' t' with
  | null =>
      cases h' with
      | null => exact ⟨rfl, rfl⟩
      | number hc => exact absurd hc (not_opensNumber rfl)
      | _ => exact hkind.elim
  | trueWord =>
      cases h' with
      | trueWord => exact ⟨rfl, rfl⟩
      | number hc => exact absurd hc (not_opensNumber rfl)
      | _ => exact hkind.elim
  | falseWord =>
      cases h' with
      | falseWord => exact ⟨rfl, rfl⟩
      | number hc => exact absurd hc (not_opensNumber rfl)
      | _ => exact hkind.elim
  | number hc htext hs =>
      cases h' with
      | number hc' htext' hs' =>
          obtain ⟨rfl, rfl⟩ := number_unique (hs.symm.trans hs') htext htext' hstops hstops'
          exact ⟨rfl, rfl⟩
      | noItem | noMember | item | member => exact hkind.elim
      | _ => exact absurd hc (not_opensNumber rfl)
  | string hbody =>
      cases h' with
      | string hbody' =>
          obtain ⟨rfl, rfl⟩ := hbody.unique hbody'
          exact ⟨rfl, rfl⟩
      | number hc => exact absurd hc (not_opensNumber rfl)
      | _ => exact hkind.elim
  | array hitems ih =>
      cases h' with
      | array hitems' =>
          obtain ⟨hpart, hrest⟩ := ih hitems' rfl rfl rfl
          cases hpart
          cases hrest
          exact ⟨rfl, rfl⟩
      | number hc => exact absurd hc (not_opensNumber rfl)
      | _ => exact hkind.elim
  | object hmembers ih =>
      cases h' with
      | object hmembers' =>
          obtain ⟨hpart, hrest⟩ := ih hmembers' rfl rfl rfl
          cases hpart
          cases hrest
          exact ⟨rfl, rfl⟩
      | number hc => exact absurd hc (not_opensNumber rfl)
      | _ => exact hkind.elim
  | noItem hblanks =>
      cases h' with
      | noItem hblanks' =>
          obtain ⟨t, rfl⟩ := List.head?_eq_some_iff.mp hstops
          obtain ⟨t', rfl⟩ := List.head?_eq_some_iff.mp hstops'
          cases hkind
          exact ⟨rfl, Blanks.unique hblanks rfl hblanks' rfl⟩
      | item hseparated hvalue =>
          obtain ⟨t, rfl⟩ := List.head?_eq_some_iff.mp hstops
          obtain ⟨c, rest, rfl, hblank, hcloser⟩ := hvalue.exists_cons
          exact absurd (hseparated.ne_closer hblank hblanks (.inl rfl)) (fun h => hcloser (.inl h))
      | _ => exact hkind.elim
  | item hseparated hvalue hitems ihvalue ihitems =>
      cases h' with
      | noItem hblanks' =>
          obtain ⟨t', rfl⟩ := List.head?_eq_some_iff.mp hstops'
          obtain ⟨c, rest, rfl, hblank, hcloser⟩ := hvalue.exists_cons
          exact absurd (hseparated.ne_closer hblank hblanks' (.inl rfl)) (fun h => hcloser (.inl h))
      | item hseparated' hvalue' hitems' =>
          cases hkind
          obtain ⟨c, rest, rfl, hblank, -⟩ := hvalue.exists_cons
          obtain ⟨c', rest', rfl, hblank', -⟩ := hvalue'.exists_cons
          cases hseparated.unique hblank hseparated' hblank'
          obtain ⟨hpart, rfl⟩ := ihvalue hvalue' trivial (hitems.ends_of_items hstops)
            (hitems'.ends_of_items hstops')
          cases hpart
          obtain ⟨hpart, rfl⟩ := ihitems hitems' rfl hstops hstops'
          cases hpart
          exact ⟨rfl, rfl⟩
      | _ => exact hkind.elim
  | noMember hblanks =>
      cases h' with
      | noMember hblanks' =>
          obtain ⟨t, rfl⟩ := List.head?_eq_some_iff.mp hstops
          obtain ⟨t', rfl⟩ := List.head?_eq_some_iff.mp hstops'
          cases hkind
          exact ⟨rfl, Blanks.unique hblanks rfl hblanks' rfl⟩
      | member hseparated =>
          obtain ⟨t, rfl⟩ := List.head?_eq_some_iff.mp hstops
          cases hseparated.ne_closer rfl hblanks (.inr rfl)
      | _ => exact hkind.elim
  | member hseparated hbody hcolon hblanks hvalue hmembers ihvalue ihmembers =>
      cases h' with
      | noMember hblanks' =>
          obtain ⟨t', rfl⟩ := List.head?_eq_some_iff.mp hstops'
          cases hseparated.ne_closer rfl hblanks' (.inr rfl)
      | member hseparated' hbody' hcolon' hblanks' hvalue' hmembers' =>
          cases hkind
          cases hseparated.unique rfl hseparated' rfl
          obtain ⟨rfl, rfl⟩ := hbody.unique hbody'
          cases Blanks.unique hcolon rfl hcolon' rfl
          obtain ⟨c, rest, rfl, hblank, -⟩ := hvalue.exists_cons
          obtain ⟨c', rest', rfl, hblank', -⟩ := hvalue'.exists_cons
          cases Blanks.unique hblanks hblank hblanks' hblank'
          obtain ⟨hpart, rfl⟩ := ihvalue hvalue' trivial (hmembers.ends_of_members hstops)
            (hmembers'.ends_of_members hstops')
          cases hpart
          obtain ⟨hpart, rfl⟩ := ihmembers hmembers' rfl hstops hstops'
          cases hpart
          exact ⟨rfl, rfl⟩
      | _ => exact hkind.elim

theorem Tree.IsTreeOf.unique {tree tree' : Tree} {text : List Char} (h : tree.IsTreeOf text)
    (h' : tree'.IsTreeOf text) : tree = tree' := by
  obtain ⟨s, t, hblanks, hvalue, hend⟩ := h
  obtain ⟨s', t', hblanks', hvalue', hend'⟩ := h'
  obtain ⟨c, rest, rfl, hblank, -⟩ := hvalue.exists_cons
  obtain ⟨c', rest', rfl, hblank', -⟩ := hvalue'.exists_cons
  cases Blanks.unique hblanks hblank hblanks' hblank'
  have hnothing : Ends [] := fun c hc => by cases hc
  cases (hvalue.unique hvalue' trivial (hend.ends hnothing) (hend'.ends hnothing)).1
  rfl

end Unique

end TableLineage.Json
