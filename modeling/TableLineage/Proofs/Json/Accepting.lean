import TableLineage.Proofs.Json.Reading
import TableLineage.Proofs.Json.Taking

/-!
# What readers accept

The other half of reading: where a tree has what a reader wants, the reader
takes its text, however it is spaced.  A reader is exact if it accepts nothing
else.
-/

namespace TableLineage.Json

section Lengths

variable {s t : List Char}

theorem Across.length_le {accepts : Char → Bool} (h : Across accepts s t) :
    t.length ≤ s.length := by
  obtain ⟨taken, rfl, -⟩ := h
  simp

theorem Body.length_lt {body : List Char} (h : Body body s t) :
    body.length + t.length < s.length := by
  rw [h.eq_append, List.length_append, List.length_cons]
  omega

theorem Separated.length_le {first : Bool} (h : Separated first s t) : t.length ≤ s.length := by
  cases first with
  | true => exact Across.length_le h
  | false =>
      obtain ⟨middle, hcomma, h⟩ := h
      have hcomma := hcomma.length_le
      have h := h.length_le
      rw [List.length_cons] at hcomma
      omega

def Part.minLength : Part → Nat
  | .value _ => 1
  | _ => 0

theorem Written.length_le {part : Part} (h : Written part s t) :
    t.length + part.minLength ≤ s.length := by
  induction h with
  | null | trueWord | falseWord => simp [Part.minLength]
  | number _ _ hs => simp [Part.minLength, hs]
  | string hbody =>
      have hbody := hbody.length_lt
      simp only [Part.minLength, List.length_cons]
      omega
  | array _ ih | object _ ih =>
      simp only [Part.minLength, List.length_cons] at ih ⊢
      omega
  | noItem hblanks | noMember hblanks => exact hblanks.length_le
  | item hseparated _ _ ihvalue ihitems =>
      have hseparated := hseparated.length_le
      simp only [Part.minLength] at ihvalue ihitems ⊢
      omega
  | member hseparated hbody hcolon hblanks _ _ ihvalue ihmembers =>
      have hseparated := hseparated.length_le
      have hbody := hbody.length_lt
      have hcolon := hcolon.length_le
      have hblanks := hblanks.length_le
      simp only [Part.minLength, List.length_cons] at hseparated hcolon ihvalue ihmembers ⊢
      omega

theorem Written.number_eq {text : List Char} (h : Written (.value (.number text)) s t) :
    s = text ++ t := by
  cases h with
  | number _ _ hs => rw [hs, List.cons_append]

theorem Written.head?_ne_n {tree : Tree} (h : Written (.value tree) s t)
    (hne : tree ≠ .null) : s.head? ≠ some 'n' := by
  cases h with
  | null => exact absurd rfl hne
  | number hc =>
      rintro ⟨⟩
      rcases hc with hc | hc <;> cases hc
  | _ => rintro ⟨⟩

theorem Written.length_lt {tree : Tree} (h : Written (.value tree) s t) : t.length < s.length :=
  h.length_le

end Lengths

namespace Reader

section Signs

variable {limits : Limits} {s t : List Char} {c : Char}

theorem takes_peekValue (h : Blanks s (c :: t)) (hc : Cursor.isBlank c = false) :
    Takes peekValue limits s c (c :: t) :=
  .bind (takes_token h hc) (.pure c _)

theorem takes_listEnd (h : Blanks s (']' :: t)) : Takes listEnd limits s () t :=
  .bind (takes_token h rfl) (takes_skip ']' t)

theorem takes_objectEnd (h : Blanks s ('\x7d' :: t)) : Takes objectEnd limits s () t :=
  .bind (takes_token h rfl) (takes_skip '\x7d' t)

theorem takes_colon (h : Blanks s (':' :: t)) : Takes colon limits s () t :=
  .bind (takes_token h rfl) (takes_skip ':' t)

theorem takes_nextItem_end {first : Bool} (h : Blanks s (']' :: t)) :
    Takes (nextItem first) limits s false (']' :: t) :=
  .bind (takes_token h rfl) (.pure false _)

theorem takes_nextItem {first : Bool} (h : Separated first s (c :: t)) (hc : OpensValue c) :
    Takes (nextItem first) limits s true (c :: t) := by
  have hne : c ≠ ']' := fun h => hc.2 (.inl h)
  cases first with
  | true =>
      refine .bind (takes_token h hc.1) ?_
      split
      · contradiction
      · next heq => exact absurd (Option.some.inj heq) hne
      · exact .pure true _
  | false =>
      obtain ⟨middle, hcomma, h⟩ := h
      refine .bind (takes_token hcomma rfl) (.bind (takes_skip ',' middle) ?_)
      refine .bind (takes_token h hc.1) ?_
      split
      · next heq => exact absurd (Option.some.inj heq) hne
      · exact .pure true _
      · contradiction

theorem takes_nextMember_end {first : Bool} (h : Blanks s ('\x7d' :: t)) :
    Takes (nextMember first) limits s false ('\x7d' :: t) :=
  .bind (takes_token h rfl) (.pure false _)

theorem takes_nextMember {first : Bool} (h : Separated first s ('"' :: t)) :
    Takes (nextMember first) limits s true ('"' :: t) := by
  cases first with
  | true => exact .bind (takes_token h rfl) (.pure true _)
  | false =>
      obtain ⟨middle, hcomma, h⟩ := h
      exact .bind (takes_token hcomma rfl)
        (.bind (takes_skip ',' middle) (.bind (takes_token h rfl) (.pure true _)))

theorem takes_stringBody {body : List Char} {text : String} (hbody : Body body s t)
    (htext : Spells body text) (hsteps : s.length < limits.steps) :
    Takes stringBody limits s text t := by
  have hlength := hbody.length_lt
  have hchars := htext.text
  simp only [bodyText?, Option.bind_eq_bind, Option.bind_eq_some_iff, Option.some.injEq] at hchars
  obtain ⟨units, hunits, chars, hchars, rfl⟩ := hchars
  refine .bind (takes_budget s) ?_
  rw [hbody.eq_append]
  exact takes_stringFrom (pieces_of_body hbody hunits) htext.clean hchars (by omega)

theorem takes_key {body : List Char} {name : String} (hbody : Body body s t)
    (hname : Spells body name) (hsteps : s.length < limits.steps) :
    Takes key limits ('"' :: s) name t :=
  .bind (takes_skip '"' s) (takes_stringBody hbody hname hsteps)

end Signs

section Composite

variable {α σ : Type} {limits : Limits} {depth : Nat} {s t u : List Char} {a : α}

theorem Takes.placing {p : Reader α} (h : Takes p limits s a t) (stop : Cursor → Cursor) :
    Takes (placing stop p) limits s a t := by
  intro place
  obtain ⟨place', h⟩ := h place
  refine ⟨place', ?_⟩
  rw [Reader.placing, h]

theorem Takes.deeper {p : Reader α} (hdepth : limits.depth = depth + 1)
    (h : Takes p { limits with depth } s a t) : Takes (deeper p) limits s a t := by
  intro place
  obtain ⟨place', h⟩ := h place
  refine ⟨place', ?_⟩
  rw [Reader.deeper, hdepth]
  exact h

theorem Takes.listBody {p : Reader α} (hdepth : limits.depth = depth + 1)
    (h : Takes p { limits with depth } s a t) (hend : Blanks t (']' :: u)) :
    Takes (listBody p) limits ('[' :: s) a u :=
  .deeper hdepth (.bind (takes_skip '[' s)
    (.placing (.bind h (.bind (takes_listEnd hend) (.pure a u))) _))

theorem Takes.objectBody {p : Reader α} (hdepth : limits.depth = depth + 1)
    (h : Takes p { limits with depth } s a t) (hend : Blanks t ('\x7d' :: u)) :
    Takes (objectBody p) limits ('\x7b' :: s) a u :=
  .deeper hdepth (.bind (takes_skip '\x7b' s)
    (.placing (.bind h (.bind (takes_objectEnd hend) (.pure a u))) _))

end Composite

section Parts

variable {α σ : Type} {limits : Limits} {s t : List Char} {budget : Nat} {first : Bool}

/-- A reader that takes every tree, with blanks in front of it, that something fits. -/
def TakesTree (p : Reader α) (Fits : Nat → α → Tree → Prop) : Prop :=
  ∀ ⦃limits s start a tree t⦄, Blanks s start → Written (.value tree) start t → Ends t →
    Fits limits.depth a tree → s.length < limits.steps → Takes p limits s a t

theorem TakesTree.imp {p : Reader α} {Fits Fits' : Nat → α → Tree → Prop} (hp : TakesTree p Fits)
    (h : ∀ depth a tree, Fits' depth a tree → Fits depth a tree) : TakesTree p Fits' :=
  fun _ _ _ _ _ _ hblanks hvalue hends hfits hsteps =>
    hp hblanks hvalue hends (h _ _ _ hfits) hsteps

theorem TakesTree.map {β : Type} {p : Reader α} {Fits : Nat → α → Tree → Prop}
    (hp : TakesTree p Fits) (f : α → β) :
    TakesTree (do pure (f (← p))) fun depth b tree => ∃ a, b = f a ∧ Fits depth a tree := by
  rintro limits s start _ tree t hblanks hvalue hends ⟨a, rfl, hfits⟩ hsteps
  exact .bind (hp hblanks hvalue hends hfits hsteps) (.pure _ _)

theorem takes_itemsFrom {item : Reader α} {Fits : Nat → α → Tree → Prop}
    (hitem : TakesTree item Fits) {found : List α} {items : List Tree}
    (hfound : List.Forall₂ (Fits limits.depth) found items)
    (hitems : Written (.items first items) s (']' :: t)) (hsteps : s.length < limits.steps)
    (hbudget : s.length < budget) :
    Takes (itemsFrom item budget first) limits s found (']' :: t) := by
  induction hfound generalizing s first budget with
  | nil =>
      obtain _ | budget := budget
      · cases hbudget
      cases hitems with
      | noItem hblanks => exact .bind (takes_nextItem_end hblanks) (.pure [] _)
  | @cons a tree found items hfits _ ih =>
      obtain _ | budget := budget
      · cases hbudget
      cases hitems with
      | item hseparated hvalue hitems =>
          have hlength := hvalue.length_lt
          have hseparated' := hseparated.length_le
          obtain ⟨c, rest, rfl, hc⟩ := hvalue.exists_cons
          refine .bind (takes_nextItem hseparated hc) ?_
          refine .bind (hitem (.refl _) hvalue (hitems.ends_of_items rfl) hfits (by omega)) ?_
          exact .bind (ih hitems (by omega) (by omega)) (.pure _ _)

/-- A reader that takes what stands behind the key of every member that there is a step for. -/
def TakesMember (member : String → σ → Reader σ) (Step : Nat → String → Tree → σ → σ → Prop) :
    Prop :=
  ∀ ⦃name state state' limits s s' start tree t⦄, Blanks s (':' :: s') → Blanks s' start →
    Written (.value tree) start t → Ends t → Step limits.depth name tree state state' →
    s.length < limits.steps → Takes (member name state) limits s state' t

theorem takes_membersFrom {member : String → σ → Reader σ}
    {Step : Nat → String → Tree → σ → σ → Prop} (hmember : TakesMember member Step)
    {members : List (List Char × Tree)} {state state' : σ}
    (hfolds : Folds (Step limits.depth) members state state')
    (hmembers : Written (.members first members) s ('\x7d' :: t))
    (hsteps : s.length < limits.steps) (hbudget : s.length < budget) :
    Takes (membersFrom member budget first state) limits s state' ('\x7d' :: t) := by
  induction hfolds generalizing s first budget with
  | nil =>
      obtain _ | budget := budget
      · cases hbudget
      cases hmembers with
      | noMember hblanks => exact .bind (takes_nextMember_end hblanks) (.pure _ _)
  | cons hname hstep _ ih =>
      obtain _ | budget := budget
      · cases hbudget
      cases hmembers with
      | member hseparated hbody hcolon hblanks hvalue hmembers =>
          have hlength₁ := hseparated.length_le
          have hlength₂ := hbody.length_lt
          have hlength₃ := hcolon.length_le
          have hlength₄ := hblanks.length_le
          have hlength₅ := hvalue.length_lt
          rw [List.length_cons] at hlength₁ hlength₃
          refine .bind (takes_nextMember hseparated) (.bind (takes_key hbody hname (by omega)) ?_)
          refine .bind (hmember hcolon hblanks hvalue (hmembers.ends_of_members rfl) hstep
            (by omega)) ?_
          exact ih hmembers (by omega) (by omega)

theorem takes_items {item : Reader α} {Fits : Nat → α → Tree → Prop}
    (hitem : TakesTree item Fits) {found : List α} {items : List Tree}
    (hfound : List.Forall₂ (Fits limits.depth) found items)
    (hitems : Written (.items true items) s (']' :: t)) (hsteps : s.length < limits.steps) :
    Takes (Reader.items item) limits s found (']' :: t) :=
  .bind (takes_budget s) (takes_itemsFrom hitem hfound hitems hsteps hsteps)

theorem takes_members {member : String → σ → Reader σ}
    {Step : Nat → String → Tree → σ → σ → Prop} (hmember : TakesMember member Step)
    {members : List (List Char × Tree)} {state state' : σ}
    (hfolds : Folds (Step limits.depth) members state state')
    (hmembers : Written (.members true members) s ('\x7d' :: t))
    (hsteps : s.length < limits.steps) :
    Takes (Reader.members member state) limits s state' ('\x7d' :: t) :=
  .bind (takes_budget s) (takes_membersFrom hmember hfolds hmembers hsteps hsteps)

theorem takes_listBody_items {item : Reader α} {Fits : Nat → α → Tree → Prop}
    (hitem : TakesTree item Fits) {found : List α} {tree : Tree}
    (heach : Each Fits limits.depth found tree) (hvalue : Written (.value tree) s t)
    (hsteps : s.length < limits.steps) :
    s.head? = some '[' ∧ Takes (listBody (Reader.items item)) limits s found t := by
  obtain ⟨depth, steps⟩ := limits
  cases heach with
  | array hfound =>
      cases hvalue with
      | array hitems =>
          rw [List.length_cons] at hsteps
          exact ⟨rfl, .listBody rfl (takes_items hitem hfound hitems
            (Nat.lt_of_succ_lt hsteps)) (.refl _)⟩

end Parts

section Values

variable {inner : Reader Value} {Fits : Nat → Value → Tree → Prop}

theorem takesMember_valueMember (hinner : TakesTree inner Fits) :
    TakesMember (valueMember inner) (KeepsNext Fits) := by
  rintro name state _ limits s s' start tree t hcolon hblanks hvalue hends ⟨a, rfl, hfits⟩ hsteps
  have hlength := hcolon.length_le
  rw [List.length_cons] at hlength
  exact .bind (takes_colon hcolon)
    (.bind (hinner hblanks hvalue hends hfits (by omega)) (.pure _ _))

theorem not_isBlank_of_isDigit {c : Char} (hc : isDigit c = true) : Cursor.isBlank c = false := by
  rw [← Bool.not_eq_true, isBlank_iff]
  rintro (rfl | rfl | rfl | rfl) <;> cases hc

theorem takes_valueOf_digit {limits : Limits} {s t u : List Char} {c : Char}
    {numeral : Number.Numeral} (hblanks : Blanks s (c :: t)) (hc : isDigit c = true)
    (h : Takes (number false) limits (c :: t) numeral u) :
    Takes (valueOf inner) limits s (.number numeral) u := by
  have hne (d : Char) (hd : isDigit d = false) : some c ≠ some d := by
    rintro ⟨⟩
    rw [hc] at hd
    cases hd
  refine .bind (takes_token hblanks (not_isBlank_of_isDigit hc)) ?_
  split
  · contradiction
  · next heq => exact absurd heq (hne 'n' rfl)
  · next heq => exact absurd heq (hne 't' rfl)
  · next heq => exact absurd heq (hne 'f' rfl)
  · next heq => exact absurd heq (hne '-' rfl)
  · next heq => exact absurd heq (hne '"' rfl)
  · next heq => exact absurd heq (hne '[' rfl)
  · next heq => exact absurd heq (hne '\x7b' rfl)
  · next heq =>
      cases heq
      rw [if_pos hc]
      exact .bind h (.pure _ _)

theorem takesTree_valueOf (hinner : TakesTree inner Fits) :
    TakesTree (valueOf inner) (KeepsWithin Fits) := by
  intro limits s start a tree t hblanks hvalue hends hkeeps hsteps
  have hlength := hblanks.length_le
  obtain ⟨depth, steps⟩ := limits
  have hsteps : s.length < steps := hsteps
  cases hkeeps with
  | scalar hscalar =>
      cases hscalar with
      | null =>
          cases hvalue with
          | null =>
              exact .bind (takes_token hblanks rfl) (.bind (takes_skip _ _)
                (.bind (takes_word ['u', 'l', 'l'] _) (.pure _ _)))
      | boolean =>
          cases hvalue with
          | trueWord =>
              exact .bind (takes_token hblanks rfl) (.bind (takes_skip _ _)
                (.bind (takes_word ['r', 'u', 'e'] _) (.pure _ _)))
          | falseWord =>
              exact .bind (takes_token hblanks rfl) (.bind (takes_skip _ _)
                (.bind (takes_word ['a', 'l', 's', 'e'] _) (.pure _ _)))
      | string htext =>
          cases hvalue with
          | string hbody =>
              rw [List.length_cons] at hlength
              exact .bind (takes_token hblanks rfl) (.bind (takes_skip _ _)
                (.bind (takes_stringBody hbody htext (by omega)) (.pure _ _)))
      | number hnumber hnumeral =>
          obtain rfl := hvalue.number_eq
          rw [List.length_append] at hlength
          cases hnumber with
          | @negative _ text htext =>
              rw [List.length_cons] at hlength
              have hlength : text.length < steps := by omega
              exact .bind (takes_token hblanks rfl) (.bind (takes_skip '-' _)
                (.bind (takes_number htext hends hlength hnumeral) (.pure _ _)))
          | positive htext =>
              have htakes := @takes_number ⟨depth, steps⟩ _ _ _ _ _ htext hends
                (show _ < steps by omega) hnumeral
              obtain ⟨c, rest, rfl, hc, -⟩ := htext.exists_cons
              exact takes_valueOf_digit hblanks hc htakes
  | @composite _ _ depth hcomposite =>
      cases hcomposite with
      | array hfound =>
          obtain ⟨hopen, hlist⟩ :=
            takes_listBody_items hinner (.array hfound) hvalue (hblanks.length_le.trans_lt hsteps)
          obtain ⟨rest, rfl⟩ := List.head?_eq_some_iff.mp hopen
          exact .bind (takes_token hblanks rfl) (.bind hlist (.pure _ _))
      | @object found members hfound =>
          cases hvalue with
          | @object _ s' _ hmembers =>
              rw [List.length_cons] at hlength
              have hlength : s'.length < steps := by omega
              have hfolds : Folds (KeepsNext Fits _) members [] (found.reverse ++ []) :=
                folds_keepsNext.mpr ⟨found, rfl, hfound⟩
              have hread := @takes_members _ ⟨_, steps⟩ _ _ _ _
                (takesMember_valueMember hinner) _ _ _ hfolds hmembers hlength
              refine .bind (takes_token hblanks rfl) (.bind (.objectBody rfl hread (.refl _)) ?_)
              rw [List.append_nil, List.reverse_reverse]
              exact .pure _ _

theorem takesTree_value : TakesTree value Keeps := by
  have hwithin (depth : Nat) : TakesTree (valueWithin depth) fun left a tree =>
      left ≤ depth ∧ Keeps left a tree := by
    induction depth with
    | zero =>
        have hnone : TakesTree (failNext .tooDeep : Reader Value) fun _ _ _ => False :=
          fun _ _ _ _ _ _ _ _ _ h => h.elim
        refine (takesTree_valueOf hnone).imp ?_
        rintro left a tree ⟨hleft, hkeeps⟩
        obtain rfl := Nat.le_zero.mp hleft
        exact .scalar hkeeps
    | succ depth ih =>
        refine (takesTree_valueOf ih).imp ?_
        rintro left a tree ⟨hleft, hkeeps⟩
        cases keeps_iff.mp hkeeps with
        | scalar h => exact .scalar h
        | composite h => exact .composite (h.imp fun a tree h => ⟨by omega, h⟩)
  intro limits s start a tree t hblanks hvalue hends hkeeps hsteps
  exact hwithin limits.depth hblanks hvalue hends ⟨Nat.le_refl _, hkeeps⟩ hsteps

end Values

section Skipping

variable {limits : Limits} {s t u : List Char} {body : List Char}

theorem takes_skipBody {budget : Nat} (hbody : Body body s t) (hspellable : Spellable body)
    (hbudget : s.length < budget) : Takes (skipStringFrom budget) limits s () t := by
  have hlength := hbody.length_lt
  obtain ⟨units, hunits⟩ := Option.isSome_iff_exists.mp hspellable.units
  rw [hbody.eq_append]
  exact takes_skipStringFrom (pieces_of_body hbody hunits) hspellable.clean (by omega)

theorem takes_skipKey {s₁ s₂ : List Char} (hquote : Blanks s ('"' :: s₁)) (hbody : Body body s₁ s₂)
    (hspellable : Spellable body) (hcolon : Blanks s₂ (':' :: t))
    (hsteps : s.length < limits.steps) : Takes skipKey limits s () t := by
  have hlength := hquote.length_le
  rw [List.length_cons] at hlength
  refine .bind (takes_token hquote rfl) (.bind (takes_skip '"' s₁) (.bind (takes_budget s₁) ?_))
  exact .bind (takes_skipBody hbody hspellable (by omega)) (takes_colon hcolon)

/-- What a budget has to be at least; an item takes a step to be found and one to be opened. -/
def Stage.cost : Stage → List Char → Nat
  | .value, s => 2 * s.length
  | .opened, s => 2 * s.length + 1
  | .closed, s => 2 * s.length + 1

def inside (first : Bool) : Stage := if first then .opened else .closed

theorem cost_inside (first : Bool) (s : List Char) : (inside first).cost s = 2 * s.length + 1 := by
  cases first <;> rfl

def SkipsTo (limits : Limits) (stage : Stage) (outer : List Nesting) (s t : List Char) : Prop :=
  ∀ ⦃budget⦄, stage.cost s ≤ budget → Takes (skipFrom budget stage outer) limits s () t

theorem skipsTo_nil (s : List Char) : SkipsTo limits .closed [] s s := by
  intro budget hbudget
  obtain _ | budget := budget
  · cases hbudget
  · exact .pure () s

theorem SkipsTo.close {nesting : Nesting} {outer : List Nesting} {first : Bool}
    (hclose : Blanks s (nesting.close :: t)) (h : SkipsTo limits .closed outer t u) :
    SkipsTo limits (inside first) (nesting :: outer) s u := by
  intro budget hbudget
  have hlength := hclose.length_le
  rw [List.length_cons] at hlength
  rw [cost_inside] at hbudget
  obtain _ | budget := budget
  · cases hbudget
  have hblank : Cursor.isBlank nesting.close = false := by cases nesting <;> rfl
  have hrest : Takes (do skip; skipFrom budget .closed outer) limits (nesting.close :: t) () u :=
    .bind (takes_skip _ t) (h (by simp only [Stage.cost]; omega))
  cases first with
  | true =>
      refine .bind (takes_token hclose hblank) ?_
      dsimp only
      rwa [if_pos rfl]
  | false =>
      refine .bind (takes_token hclose hblank) ?_
      dsimp only
      rwa [if_pos rfl]

/-- What stands in front of a value inside of another one is taken. -/
def Entry (limits : Limits) : Nesting → List Char → List Char → Prop
  | .list, s, t => s = t
  | .object, s, t => Takes skipKey limits s () t

theorem Entry.takes {nesting : Nesting} {p : Reader Unit} (h : Entry limits nesting s t)
    (hp : Takes p limits t () u) :
    Takes (if nesting = .object then skipKey >>= fun _ => p else p) limits s () u := by
  cases nesting with
  | list =>
      obtain rfl : s = t := h
      exact hp
  | object => exact .bind h hp

theorem SkipsTo.entry {nesting : Nesting} {outer : List Nesting} {first : Bool} {c : Char}
    (hseparated : Separated first s (c :: t)) (hc : OpensValue c)
    (h : ∀ ⦃start⦄, Blanks start (c :: t) → start.length ≤ s.length →
      ∃ value, Entry limits nesting start value ∧ value.length ≤ start.length ∧
        SkipsTo limits .value (nesting :: outer) value u) :
    SkipsTo limits (inside first) (nesting :: outer) s u := by
  intro budget hbudget
  rw [cost_inside] at hbudget
  obtain _ | budget := budget
  · cases hbudget
  have hne : c ≠ nesting.close := by
    rintro rfl
    cases nesting with
    | list => exact hc.2 (.inl rfl)
    | object => exact hc.2 (.inr rfl)
  cases first with
  | true =>
      have hlength := Across.length_le hseparated
      obtain ⟨value, hentry, hlength', hrest⟩ := h (.refl _) hlength
      refine .bind (takes_token hseparated hc.1) ?_
      dsimp only
      rw [if_neg hne]
      exact hentry.takes (hrest (by simp only [Stage.cost]; omega))
  | false =>
      obtain ⟨middle, hcomma, hblanks⟩ := hseparated
      have hlength := hcomma.length_le
      rw [List.length_cons] at hlength
      obtain ⟨value, hentry, hlength', hrest⟩ := h hblanks (by omega)
      have hne : ',' ≠ nesting.close := by cases nesting <;> decide
      refine .bind (takes_token hcomma rfl) ?_
      dsimp only
      rw [if_neg hne]
      exact .bind (takes_skip ',' middle) (hentry.takes (hrest (by simp only [Stage.cost]; omega)))

theorem SkipsTo.leaf {outer : List Nesting} {c : Char} {s₀ : List Char}
    (hblanks : Blanks s₀ (c :: s)) (hc : Cursor.isBlank c = false) (hlist : c ≠ '[')
    (hobject : c ≠ '\x7b') (hleaf : Takes (skipLeaf c) limits (c :: s) () t)
    (hlength : t.length ≤ s.length) (h : SkipsTo limits .closed outer t u) :
    SkipsTo limits .value outer s₀ u := by
  intro budget hbudget
  have hlength' := hblanks.length_le
  rw [List.length_cons] at hlength'
  simp only [Stage.cost] at hbudget
  obtain _ | budget := budget
  · omega
  refine .bind (takes_token hblanks hc) ?_
  split
  · contradiction
  · next heq => exact absurd (Option.some.inj heq) hlist
  · next heq => exact absurd (Option.some.inj heq) hobject
  · next heq =>
      cases heq
      exact .bind hleaf (h (by simp only [Stage.cost]; omega))

theorem SkipsTo.opened {nesting : Nesting} {outer : List Nesting} {c : Char} {s₀ : List Char}
    (hblanks : Blanks s₀ (c :: s))
    (hc : (c = '[' ∧ nesting = .list) ∨ (c = '\x7b' ∧ nesting = .object))
    (h : SkipsTo limits .opened (nesting :: outer) s u) : SkipsTo limits .value outer s₀ u := by
  intro budget hbudget
  have hlength := hblanks.length_le
  rw [List.length_cons] at hlength
  simp only [Stage.cost] at hbudget
  obtain _ | budget := budget
  · omega
  have hrest := h (show Stage.opened.cost s ≤ budget by simp only [Stage.cost]; omega)
  rcases hc with ⟨rfl, rfl⟩ | ⟨rfl, rfl⟩
  · exact .bind (takes_token hblanks rfl) (.bind (takes_skip _ s) hrest)
  · exact .bind (takes_token hblanks rfl) (.bind (takes_skip _ s) hrest)

theorem takes_skipLeaf_digit {c : Char} (hc : isDigit c = true)
    (h : Takes skipNumber limits (c :: s) () t) : Takes (skipLeaf c) limits (c :: s) () t := by
  have hne (d : Char) (hd : isDigit d = false) : c ≠ d := by
    rintro rfl
    rw [hc] at hd
    cases hd
  rw [skipLeaf.eq_def]
  split
  · exact absurd rfl (hne 'n' rfl)
  · exact absurd rfl (hne 't' rfl)
  · exact absurd rfl (hne 'f' rfl)
  · exact absurd rfl (hne '-' rfl)
  · exact absurd rfl (hne '"' rfl)
  · rwa [if_pos hc]

theorem skipsTo_number {outer : List Nesting} {negative : Bool} {n : Decimal}
    {text s₀ : List Char} (hnumber : IsNumber negative n text) (hblanks : Blanks s₀ (text ++ t))
    (hends : Ends t) (h : SkipsTo limits .closed outer t u) :
    SkipsTo limits .value outer s₀ u := by
  cases hnumber with
  | @negative _ text htext =>
      have hleaf : Takes (skipLeaf '-') limits ('-' :: (text ++ t)) () t :=
        .bind (takes_skip '-' _) (takes_skipNumber htext hends)
      exact .leaf hblanks rfl (by decide) (by decide) hleaf (by simp) h
  | positive htext =>
      have htakes := @takes_skipNumber limits _ _ _ htext hends
      obtain ⟨c, rest, rfl, hc, -⟩ := htext.exists_cons
      have hlist : c ≠ '[' := by
        rintro rfl
        cases hc
      have hobject : c ≠ '\x7b' := by
        rintro rfl
        cases hc
      exact .leaf hblanks (not_isBlank_of_isDigit hc) hlist hobject (takes_skipLeaf_digit hc htakes)
        (by simp) h

def Skipped (limits : Limits) : Part → List Char → List Char → Prop
  | .value tree, s, t => tree.Valid → Ends t → ∀ ⦃outer s₀ u⦄, Blanks s₀ s →
      s₀.length < limits.steps → SkipsTo limits .closed outer t u → SkipsTo limits .value outer s₀ u
  | .items first items, s, t => (Tree.array items).Valid → ∀ ⦃outer t' u⦄, t = ']' :: t' →
      s.length < limits.steps → SkipsTo limits .closed outer t' u →
      SkipsTo limits (inside first) (.list :: outer) s u
  | .members first members, s, t => (Tree.object members).Valid → ∀ ⦃outer t' u⦄,
      t = '\x7d' :: t' → s.length < limits.steps → SkipsTo limits .closed outer t' u →
      SkipsTo limits (inside first) (.object :: outer) s u

theorem skipped {part : Part} (h : Written part s t) : Skipped limits part s t := by
  -- Each case takes what stands in front of the inner parts and leaves the rest to them, the last
  -- one to what is assumed of the text behind the part.
  induction h with
  | null =>
      intro _ _ outer s₀ u hblanks _ hrest
      exact .leaf hblanks rfl (by decide) (by decide)
        (.bind (takes_skip _ _) (takes_word ['u', 'l', 'l'] _))
        (by simp only [List.length_cons]; omega) hrest
  | trueWord =>
      intro _ _ outer s₀ u hblanks _ hrest
      exact .leaf hblanks rfl (by decide) (by decide)
        (.bind (takes_skip _ _) (takes_word ['r', 'u', 'e'] _))
        (by simp only [List.length_cons]; omega) hrest
  | falseWord =>
      intro _ _ outer s₀ u hblanks _ hrest
      exact .leaf hblanks rfl (by decide) (by decide)
        (.bind (takes_skip _ _) (takes_word ['a', 'l', 's', 'e'] _))
        (by simp only [List.length_cons]; omega) hrest
  | number _ _ hs =>
      rintro ⟨⟩ hends outer s₀ u hblanks _ hrest
      rw [hs, ← List.cons_append] at hblanks
      exact skipsTo_number ‹_› hblanks hends hrest
  | string hbody =>
      rintro ⟨⟩ _ outer s₀ u hblanks hsteps hrest
      have hlength := hblanks.length_le
      rw [List.length_cons] at hlength
      have hlength' := hbody.length_lt
      exact .leaf hblanks rfl (by decide) (by decide)
        (.bind (takes_skip _ _) (.bind (takes_budget _) (takes_skipBody hbody ‹_› (by omega))))
        (by omega) hrest
  | array _ ih =>
      intro hvalid _ outer s₀ u hblanks hsteps hrest
      have hlength := hblanks.length_le
      rw [List.length_cons] at hlength
      exact .opened hblanks (.inl ⟨rfl, rfl⟩) (ih hvalid rfl (by omega) hrest)
  | object _ ih =>
      intro hvalid _ outer s₀ u hblanks hsteps hrest
      have hlength := hblanks.length_le
      rw [List.length_cons] at hlength
      exact .opened hblanks (.inr ⟨rfl, rfl⟩) (ih hvalid rfl (by omega) hrest)
  | noItem hblanks =>
      rintro _ outer t' u rfl _ hrest
      exact .close hblanks hrest
  | noMember hblanks =>
      rintro _ outer t' u rfl _ hrest
      exact .close hblanks hrest
  | @item first s s₁ tree s₂ items t hseparated hvalue hitems ihvalue ihitems =>
      rintro (_ | _ | _ | _ | hvalid) outer t' u rfl hsteps hrest
      obtain ⟨hvalid, hvalids⟩ := List.forall_mem_cons.mp hvalid
      have hlength := hseparated.length_le
      have hlength' := hvalue.length_lt
      have hbehind : SkipsTo limits .closed (.list :: outer) s₂ u :=
        ihitems (.array hvalids) rfl (by omega) hrest
      obtain ⟨c, rest, rfl, hc⟩ := hvalue.exists_cons
      refine .entry hseparated hc fun start hblanks hlength => ⟨start, rfl, Nat.le_refl _, ?_⟩
      exact ihvalue hvalid (hitems.ends_of_items rfl) hblanks (by omega) hbehind
  | @member first s s₁ key s₂ s₃ s₄ tree s₅ members t hseparated hbody hcolon hblanks hvalue
      hmembers ihvalue ihmembers =>
      rintro (_ | _ | _ | _ | _ | ⟨hkeys, hvalid⟩) outer t' u rfl hsteps hrest
      obtain ⟨hspellable, hkeys⟩ := List.forall_mem_cons.mp hkeys
      obtain ⟨hvalid, hvalids⟩ := List.forall_mem_cons.mp hvalid
      have hlength₁ := hseparated.length_le
      have hlength₂ := hbody.length_lt
      have hlength₃ := hcolon.length_le
      have hlength₄ := hblanks.length_le
      have hlength₅ := hvalue.length_lt
      rw [List.length_cons] at hlength₁ hlength₃
      have hbehind : SkipsTo limits .closed (.object :: outer) s₅ u :=
        ihmembers (.object hkeys hvalids) rfl (by omega) hrest
      have hquote : OpensValue '"' := ⟨rfl, by rintro (h | h) <;> cases h⟩
      refine .entry hseparated hquote fun start hstart hlength => ⟨s₃, ?_, ?_, ?_⟩
      · exact takes_skipKey hstart hbody hspellable hcolon (by omega)
      · have hlength' := hstart.length_le
        rw [List.length_cons] at hlength'
        omega
      · exact ihvalue hvalid (hmembers.ends_of_members rfl) hblanks (by omega) hbehind

theorem takesTree_skipValue : TakesTree skipValue fun _ _ tree => tree.Valid := by
  intro limits s start _ tree t hblanks hvalue hends hvalid hsteps
  have hskips := skipped hvalue hvalid hends hblanks hsteps (skipsTo_nil t)
  exact .bind (takes_budget s) (hskips (by simp only [Stage.cost]; omega))

end Skipping

section Wanted

variable {α : Type}

theorem takesTree_string : TakesTree string KeepsText := by
  intro limits s start text tree t hblanks hvalue _ hkeeps hsteps
  have hlength := hblanks.length_le
  cases hkeeps with
  | string htext =>
      cases hvalue with
      | string hbody =>
          rw [List.length_cons] at hlength
          refine .bind (takes_peekValue hblanks rfl) ?_
          rw [if_pos rfl]
          exact .bind (takes_skip '"' _) (takes_stringBody hbody htext (by omega))

inductive KeepsFlag : Nat → Bool → Tree → Prop
  | boolean : KeepsFlag depth flag (.boolean flag)

theorem takesTree_boolean : TakesTree boolean KeepsFlag := by
  intro limits s start flag tree t hblanks hvalue _ hkeeps _
  cases hkeeps
  cases hvalue with
  | trueWord =>
      exact .bind (takes_peekValue hblanks rfl) (.bind (takes_skip _ _)
        (.bind (takes_word ['r', 'u', 'e'] _) (.pure _ _)))
  | falseWord =>
      exact .bind (takes_peekValue hblanks rfl) (.bind (takes_skip _ _)
        (.bind (takes_word ['a', 'l', 's', 'e'] _) (.pure _ _)))

theorem TakesTree.optional {p : Reader α} {Fits : Nat → α → Tree → Prop} (hp : TakesTree p Fits)
    (hnull : ∀ depth a, ¬ Fits depth a .null) :
    TakesTree (Reader.optional p) fun depth => Optionally (Fits depth) := by
  intro limits s start found tree t hblanks hvalue hends hfits hsteps
  rcases hfits with ⟨rfl, rfl⟩ | ⟨a, rfl, hfits⟩
  · cases hvalue with
    | null =>
        exact .bind (takes_token hblanks rfl) (.bind (takes_skip _ _)
          (.bind (takes_word ['u', 'l', 'l'] _) (.pure _ _)))
  · have hne : tree ≠ .null := by
      rintro rfl
      exact hnull _ a hfits
    have hlength := hblanks.length_le
    have hhead := hvalue.head?_ne_n hne
    obtain ⟨c, rest, rfl, hc⟩ := hvalue.exists_cons
    refine .bind (takes_token hblanks hc.1) ?_
    rw [if_neg (by simpa using hhead)]
    exact .bind (hp (.refl _) hvalue hends hfits (hlength.trans_lt hsteps)) (.pure _ _)

theorem TakesTree.sequence {item : Reader α} {Fits : Nat → α → Tree → Prop}
    (hitem : TakesTree item Fits) : TakesTree (Reader.sequence item) (Each Fits) := by
  intro limits s start found tree t hblanks hvalue _ heach hsteps
  obtain ⟨hopen, hlist⟩ :=
    takes_listBody_items hitem heach hvalue (hblanks.length_le.trans_lt hsteps)
  obtain ⟨rest, rfl⟩ := List.head?_eq_some_iff.mp hopen
  refine .bind (takes_peekValue hblanks rfl) ?_
  rw [if_pos rfl]
  exact hlist

end Wanted

/-! ## Records -/

section Records

variable {σ : Type} {fields : List (FieldReader σ)} {Sets : Nat → String → Tree → σ → σ → Prop}

def TakesFields (fields : List (FieldReader σ)) (Sets : Nat → String → Tree → σ → σ → Prop) :
    Prop :=
  ∀ field ∈ fields, ∀ state,
    TakesTree (field.read state) fun depth state' tree => Sets depth field.name tree state state'

theorem takesMember_fieldMember (hfields : TakesFields fields Sets) :
    TakesMember (fieldMember fields) fun depth => FieldStep fields (Sets depth) := by
  intro name state state' limits s s' start tree t hcolon hblanks hvalue hends hstep hsteps
  have hlength := hcolon.length_le
  rw [List.length_cons] at hlength
  cases hstep with
  | field hexists hseen hsets =>
      -- The first field of the name is as good as any.
      obtain ⟨field, hfind⟩ : ∃ field, fields.find? (·.name == name) = some field := by
        rw [← Option.isSome_iff_exists, List.find?_isSome]
        obtain ⟨field, hmem, hname⟩ := hexists
        exact ⟨field, hmem, by simpa using hname⟩
      have hmem := List.mem_of_find?_eq_some hfind
      have hname : field.name = name := by simpa using List.find?_some hfind
      rw [fieldMember, hfind]
      dsimp only
      rw [if_neg (by simpa using hseen)]
      refine .bind (takes_colon hcolon) (.bind (hfields field hmem _ hblanks hvalue hends ?_ ?_)
        (.pure _ _))
      · rwa [hname]
      · omega
  | other hother hvalid =>
      have hfind : fields.find? (·.name == name) = none := by
        rw [List.find?_eq_none]
        simpa using hother
      have hskip : Takes skipValue limits s' () t :=
        takesTree_skipValue hblanks hvalue hends hvalid (by omega)
      rw [fieldMember, hfind]
      exact .bind (takes_colon hcolon) (.bind hskip (.pure _ _))

theorem takes_recordItems (hfields : TakesFields fields Sets) {expected : String} {index : Nat}
    {limits : Limits} {s t : List Char} {items : List Tree} {state state' : σ}
    (hsets : FieldItems (Sets limits.depth) fields items state state')
    (hitems : Written (.items (index == 0) items) s (']' :: t)) (hsteps : s.length < limits.steps) :
    ∃ r, Takes (recordItems expected index fields state) limits s state' r ∧
      Blanks r (']' :: t) := by
  induction hsets generalizing index s with
  | nil =>
      cases hitems with
      | noItem hblanks => exact ⟨s, .pure _ s, hblanks⟩
  | @cons field fields tree items state state₁ state' hset _ ih =>
      cases hitems with
      | item hseparated hvalue hitems =>
          have hlength := hseparated.length_le
          have hlength' := hvalue.length_lt
          obtain ⟨c, rest, rfl, hc⟩ := hvalue.exists_cons
          obtain ⟨r, hrest, hblanks⟩ := @ih (fun field hmem => hfields field
            (List.mem_cons_of_mem _ hmem)) (index + 1) _ hitems (by omega)
          have hfield : Takes (field.read state) limits (c :: rest) state₁ _ :=
            hfields field List.mem_cons_self state (.refl _) hvalue (hitems.ends_of_items rfl) hset
              (by omega)
          exact ⟨r, .bind (takes_nextItem hseparated hc) (.bind hfield hrest), hblanks⟩
  | @trailing field fields state state' htrailing _ ih =>
      cases hitems with
      | noItem hblanks =>
          have hlength := hblanks.length_le
          obtain ⟨r, hrest, hblanks'⟩ := @ih (fun field hmem => hfields field
            (List.mem_cons_of_mem _ hmem)) index _ (.noItem (.refl _)) (by omega)
          refine ⟨r, .bind (takes_nextItem_end hblanks) ?_, hblanks'⟩
          rw [if_neg Bool.false_ne_true, if_pos htrailing]
          exact hrest

theorem takesTree_record (hfields : TakesFields fields Sets) (title : String) (start : σ) :
    TakesTree (record title fields start) (KeepsRecord fields Sets start) := by
  intro limits s begin state tree t hblanks hvalue _ hkeeps hsteps
  have hlength := hblanks.length_le
  obtain ⟨depth, steps⟩ := limits
  have hsteps : s.length < steps := hsteps
  cases hkeeps with
  | @items depth items _ hsets =>
      cases hvalue with
      | @array _ s' _ hitems =>
          rw [List.length_cons] at hlength
          have hlength : s'.length < steps := by omega
          obtain ⟨r, hrest, hend⟩ := @takes_recordItems _ _ _ hfields
            s!"struct {title} with {countedElements fields.length}" 0 ⟨depth, steps⟩ _ _ _ _ _ hsets
            hitems hlength
          exact .bind (takes_peekValue hblanks rfl) (.listBody rfl hrest hend)
  | @members depth members seen _ hfolds hrequired =>
      cases hvalue with
      | @object _ s' _ hmembers =>
          rw [List.length_cons] at hlength
          have hlength : s'.length < steps := by omega
          have hread := @takes_members _ ⟨depth, steps⟩ _ _ _ _ (takesMember_fieldMember hfields)
            _ _ _ hfolds hmembers hlength
          have hmissing : (fields.find? fun field => field.required && !seen.contains field.name) =
              none := by
            rw [List.find?_eq_none]
            intro field hmem
            simpa using hrequired field hmem
          refine .bind (takes_peekValue hblanks rfl) (.objectBody rfl (.bind hread ?_) (.refl _))
          dsimp only
          rw [hmissing]
          exact .pure _ _

end Records

/-! ## Whole texts -/

theorem ofText_of_takes {α : Type} {p : Reader α} {Fits : Nat → α → Tree → Prop}
    (hp : TakesTree p Fits) {text : List Char} {tree : Tree} {a : α} (htree : tree.IsTreeOf text)
    (hfits : Fits depthLimit a tree) : ofText p text = .ok a := by
  obtain ⟨s, t, hblanks, hvalue, hend⟩ := htree
  have hends : Ends t := hend.ends fun c hc => by cases hc
  have hread := @hp ⟨depthLimit, text.length + 1⟩ _ _ _ _ _ hblanks hvalue hends hfits
    (Nat.lt_succ_self _)
  obtain ⟨place, hread⟩ := hread .start
  obtain ⟨place', hnone⟩ := @takes_noToken ⟨depthLimit, text.length + 1⟩ _ hend place
  rw [ofText]
  split
  · next hfound =>
      cases hfound.symm.trans (bind_eq_ok.mpr ⟨_, _, hread, bind_eq_ok.mpr ⟨_, _, hnone, rfl⟩⟩)
      rfl
  · next hfound =>
      cases hfound.symm.trans (bind_eq_ok.mpr ⟨_, _, hread, bind_eq_ok.mpr ⟨_, _, hnone, rfl⟩⟩)

/-! ## Exact readers -/

structure Exact (p : Reader α) (Fits : Nat → α → Tree → Prop) : Prop where
  reads : ReadsTree p Fits
  takes : TakesTree p Fits

section Exact

variable {α : Type} {p : Reader α} {Fits : Nat → α → Tree → Prop}

theorem Exact.ofText_eq_ok_iff (hp : Exact p Fits) {text : List Char} {tree : Tree}
    (htree : tree.IsTreeOf text) {a : α} : ofText p text = .ok a ↔ Fits depthLimit a tree := by
  constructor
  · intro h
    obtain ⟨tree', htree', hfits⟩ := ofText_eq_ok hp.reads h
    rwa [htree.unique htree']
  · exact ofText_of_takes hp.takes htree

theorem Exact.congr {Fits' : Nat → α → Tree → Prop} (hp : Exact p Fits)
    (h : ∀ depth a tree, Fits depth a tree ↔ Fits' depth a tree) : Exact p Fits' :=
  ⟨hp.reads.imp fun depth a tree => (h depth a tree).mp,
    hp.takes.imp fun depth a tree => (h depth a tree).mpr⟩

theorem Exact.map {β : Type} (hp : Exact p Fits) (f : α → β) :
    Exact (do pure (f (← p))) fun depth b tree => ∃ a, b = f a ∧ Fits depth a tree :=
  ⟨hp.reads.map f, hp.takes.map f⟩

theorem Exact.optional (hp : Exact p Fits) (hnull : ∀ depth a, ¬ Fits depth a .null) :
    Exact (Reader.optional p) fun depth => Optionally (Fits depth) :=
  ⟨hp.reads.optional, hp.takes.optional hnull⟩

theorem Exact.sequence (hp : Exact p Fits) : Exact (Reader.sequence p) (Each Fits) :=
  ⟨hp.reads.sequence, hp.takes.sequence⟩

theorem Exact.record {σ : Type} {fields : List (FieldReader σ)}
    {Sets : Nat → String → Tree → σ → σ → Prop}
    (hfields : ∀ field ∈ fields, ∀ state, Exact (field.read state) fun depth state' tree =>
      Sets depth field.name tree state state') (title : String) (start : σ) :
    Exact (Reader.record title fields start) (KeepsRecord fields Sets start) :=
  ⟨readsTree_record (fun field hmem state => (hfields field hmem state).reads) title start,
    takesTree_record (fun field hmem state => (hfields field hmem state).takes) title start⟩

theorem exact_string : Exact string KeepsText := ⟨readsTree_string, takesTree_string⟩

theorem exact_value : Exact value Keeps := ⟨readsTree_value, takesTree_value⟩

end Exact

end Reader

end TableLineage.Json
