import TableLineage.Proofs.Json.Meaning

/-!
# What readers take

A reader that succeeds has taken the text of a tree, whether it keeps a value of
it or skips it.  What it gives is what the tree is kept as under the limits of
the reader.
-/

namespace TableLineage.Json.Reader

section Composite

variable {α σ : Type} {limits : Limits} {cursor cursor' : Cursor} {a : α}

theorem listEnd_eq_ok (h : listEnd limits cursor = .ok ((), cursor')) :
    Blanks cursor.ahead (']' :: cursor'.ahead) := by
  rw [listEnd, bind_eq_ok] at h
  obtain ⟨found, middle, hpeek, h⟩ := h
  obtain ⟨hblanks, hfound⟩ := peekToken_eq_ok hpeek
  split at h
  · rwa [← skip_of_head? h hfound]
  · obtain ⟨_, middle₁, -, h⟩ := bind_eq_ok.mp h
    obtain ⟨_, middle₂, -, h⟩ := bind_eq_ok.mp h
    split at h <;> exact absurd h failNext_ne_ok
  · exact absurd h failNext_ne_ok
  · exact absurd h failNext_ne_ok

theorem objectEnd_eq_ok (h : objectEnd limits cursor = .ok ((), cursor')) :
    Blanks cursor.ahead ('\x7d' :: cursor'.ahead) := by
  rw [objectEnd, bind_eq_ok] at h
  obtain ⟨found, middle, hpeek, h⟩ := h
  obtain ⟨hblanks, hfound⟩ := peekToken_eq_ok hpeek
  split at h
  · rwa [← skip_of_head? h hfound]
  · exact absurd h failNext_ne_ok
  · exact absurd h failNext_ne_ok
  · exact absurd h failNext_ne_ok

theorem placing_eq_ok {stop : Cursor → Cursor} {p : Reader α}
    (h : placing stop p limits cursor = .ok (a, cursor')) : p limits cursor = .ok (a, cursor') := by
  rw [placing] at h
  split at h
  · cases h
  · exact h

theorem deeper_eq_ok {p : Reader α} (h : deeper p limits cursor = .ok (a, cursor')) :
    ∃ depth, limits.depth = depth + 1 ∧ p { limits with depth } cursor = .ok (a, cursor') := by
  rw [deeper] at h
  split at h
  · exact absurd h failNext_ne_ok
  · next depth hdepth => exact ⟨depth, hdepth, h⟩

theorem listBody_eq_ok {p : Reader α} (hopen : cursor.ahead.head? = some '[')
    (h : listBody p limits cursor = .ok (a, cursor')) :
    ∃ depth start stop, limits.depth = depth + 1 ∧ cursor.ahead = '[' :: start.ahead ∧
      p { limits with depth } start = .ok (a, stop) ∧
      Blanks stop.ahead (']' :: cursor'.ahead) := by
  obtain ⟨depth, hdepth, h⟩ := deeper_eq_ok h
  obtain ⟨_, start, hskip, h⟩ := bind_eq_ok.mp h
  obtain ⟨b, stop, hp, h⟩ := bind_eq_ok.mp (placing_eq_ok h)
  obtain ⟨_, middle, hend, h⟩ := bind_eq_ok.mp h
  obtain ⟨rfl, rfl⟩ := pure_eq_ok.mp h
  exact ⟨depth, start, stop, hdepth, skip_of_head? hskip hopen, hp, listEnd_eq_ok hend⟩

theorem objectBody_eq_ok {p : Reader α} (hopen : cursor.ahead.head? = some '\x7b')
    (h : objectBody p limits cursor = .ok (a, cursor')) :
    ∃ depth start stop, limits.depth = depth + 1 ∧ cursor.ahead = '\x7b' :: start.ahead ∧
      p { limits with depth } start = .ok (a, stop) ∧
      Blanks stop.ahead ('\x7d' :: cursor'.ahead) := by
  obtain ⟨depth, hdepth, h⟩ := deeper_eq_ok h
  obtain ⟨_, start, hskip, h⟩ := bind_eq_ok.mp h
  obtain ⟨b, stop, hp, h⟩ := bind_eq_ok.mp (placing_eq_ok h)
  obtain ⟨_, middle, hend, h⟩ := bind_eq_ok.mp h
  obtain ⟨rfl, rfl⟩ := pure_eq_ok.mp h
  exact ⟨depth, start, stop, hdepth, skip_of_head? hskip hopen, hp, objectEnd_eq_ok hend⟩

theorem nextItem_eq_ok {first more : Bool}
    (h : nextItem first limits cursor = .ok (more, cursor')) :
    if more then Separated first cursor.ahead cursor'.ahead
    else Blanks cursor.ahead cursor'.ahead ∧ cursor'.ahead.head? = some ']' := by
  rw [nextItem, bind_eq_ok] at h
  obtain ⟨found, middle, hpeek, h⟩ := h
  obtain ⟨hblanks, hfound⟩ := peekToken_eq_ok hpeek
  split at h
  · exact absurd h failNext_ne_ok
  · obtain ⟨rfl, rfl⟩ := pure_eq_ok.mp h
    exact ⟨hblanks, hfound⟩
  · split at h
    · next hfirst =>
        obtain ⟨rfl, rfl⟩ := pure_eq_ok.mp h
        subst hfirst
        exact hblanks
    · next hfirst =>
        split at h
        · next hcomma =>
            obtain ⟨_, behind, hskip, h⟩ := bind_eq_ok.mp h
            obtain ⟨found', stop, hpeek', h⟩ := bind_eq_ok.mp h
            rw [skip_of_head? hskip (hcomma ▸ hfound)] at hblanks
            split at h
            · exact absurd h failNext_ne_ok
            · obtain ⟨rfl, rfl⟩ := pure_eq_ok.mp h
              rw [Bool.not_eq_true] at hfirst
              subst hfirst
              exact ⟨_, hblanks, (peekToken_eq_ok hpeek').1⟩
            · exact absurd h failNext_ne_ok
        · exact absurd h failNext_ne_ok

theorem nextMember_eq_ok {first more : Bool}
    (h : nextMember first limits cursor = .ok (more, cursor')) :
    if more then Separated first cursor.ahead cursor'.ahead ∧ cursor'.ahead.head? = some '"'
    else Blanks cursor.ahead cursor'.ahead := by
  rw [nextMember, bind_eq_ok] at h
  obtain ⟨found, middle, hpeek, h⟩ := h
  obtain ⟨hblanks, hfound⟩ := peekToken_eq_ok hpeek
  split at h
  · exact absurd h failNext_ne_ok
  · obtain ⟨rfl, rfl⟩ := pure_eq_ok.mp h
    exact hblanks
  · split at h
    · next hfirst =>
        split at h
        · next hquote =>
            obtain ⟨rfl, rfl⟩ := pure_eq_ok.mp h
            subst hfirst hquote
            exact ⟨hblanks, hfound⟩
        · exact absurd h failNext_ne_ok
    · next hfirst =>
        split at h
        · next hcomma =>
            obtain ⟨_, behind, hskip, h⟩ := bind_eq_ok.mp h
            obtain ⟨found', stop, hpeek', h⟩ := bind_eq_ok.mp h
            rw [skip_of_head? hskip (hcomma ▸ hfound)] at hblanks
            obtain ⟨hblanks', hfound'⟩ := peekToken_eq_ok hpeek'
            split at h
            · obtain ⟨rfl, rfl⟩ := pure_eq_ok.mp h
              rw [Bool.not_eq_true] at hfirst
              subst hfirst
              exact ⟨⟨_, hblanks, hblanks'⟩, hfound'⟩
            · exact absurd h failNext_ne_ok
            · exact absurd h failNext_ne_ok
            · exact absurd h failNext_ne_ok
        · exact absurd h failNext_ne_ok

theorem colon_eq_ok (h : colon limits cursor = .ok ((), cursor')) :
    Blanks cursor.ahead (':' :: cursor'.ahead) := by
  rw [colon, bind_eq_ok] at h
  obtain ⟨found, middle, hpeek, h⟩ := h
  obtain ⟨hblanks, hfound⟩ := peekToken_eq_ok hpeek
  split at h
  · rwa [← skip_of_head? h hfound]
  · exact absurd h failNext_ne_ok
  · exact absurd h failNext_ne_ok

theorem key_eq_ok {name : String} (hquote : cursor.ahead.head? = some '"')
    (h : key limits cursor = .ok (name, cursor')) :
    ∃ body s, cursor.ahead = '"' :: s ∧ Body body s cursor'.ahead ∧ Spells body name := by
  rw [key, bind_eq_ok] at h
  obtain ⟨_, middle, hskip, h⟩ := h
  obtain ⟨body, hname, hbody⟩ := stringBody_eq_ok h
  exact ⟨body, _, skip_of_head? hskip hquote, hbody, hname⟩

end Composite

section Parts

variable {α σ : Type} {limits : Limits} {cursor cursor' : Cursor}

/-- A reader that takes a tree, with blanks in front of it, and gives what fits the tree where so
many composite values may be opened. -/
def ReadsTree (p : Reader α) (Fits : Nat → α → Tree → Prop) : Prop :=
  ∀ ⦃limits cursor a cursor'⦄, 0 < limits.steps → p limits cursor = .ok (a, cursor') →
    ∃ start tree, Blanks cursor.ahead start ∧ Written (.value tree) start cursor'.ahead ∧
      Fits limits.depth a tree

theorem ReadsTree.imp {p : Reader α} {Fits Fits' : Nat → α → Tree → Prop} (hp : ReadsTree p Fits)
    (h : ∀ depth a tree, Fits depth a tree → Fits' depth a tree) : ReadsTree p Fits' := by
  intro limits cursor a cursor' hsteps hread
  obtain ⟨start, tree, hblanks, hvalue, hfits⟩ := hp hsteps hread
  exact ⟨start, tree, hblanks, hvalue, h _ a tree hfits⟩

theorem ReadsTree.map {β : Type} {p : Reader α} {Fits : Nat → α → Tree → Prop}
    (hp : ReadsTree p Fits) (f : α → β) :
    ReadsTree (do pure (f (← p))) fun depth b tree => ∃ a, b = f a ∧ Fits depth a tree := by
  intro limits cursor b cursor' hsteps h
  obtain ⟨a, middle, ha, h⟩ := bind_eq_ok.mp h
  obtain ⟨rfl, rfl⟩ := pure_eq_ok.mp h
  obtain ⟨start, tree, hblanks, hvalue, hfits⟩ := hp hsteps ha
  exact ⟨start, tree, hblanks, hvalue, a, rfl, hfits⟩

theorem itemsFrom_eq_ok {item : Reader α} {Fits : Nat → α → Tree → Prop}
    (hitem : ReadsTree item Fits) {budget : Nat} {first : Bool} {found : List α}
    (h : itemsFrom item budget first limits cursor = .ok (found, cursor'))
    (hsteps : 0 < limits.steps) :
    ∃ items, Written (.items first items) cursor.ahead cursor'.ahead ∧
      List.Forall₂ (Fits limits.depth) found items := by
  induction budget generalizing first cursor found with
  | zero => cases h
  | succ budget ih =>
      rw [itemsFrom, bind_eq_ok] at h
      obtain ⟨more, middle, hnext, h⟩ := h
      have hnext := nextItem_eq_ok hnext
      cases more with
      | false =>
          obtain ⟨rfl, rfl⟩ := pure_eq_ok.mp h
          exact ⟨[], .noItem hnext.1, .nil⟩
      | true =>
          obtain ⟨a, behind, ha, h⟩ := bind_eq_ok.mp h
          obtain ⟨rest, stop, hrest, h⟩ := bind_eq_ok.mp h
          obtain ⟨rfl, rfl⟩ := pure_eq_ok.mp h
          obtain ⟨start, tree, hblanks, hvalue, hfits⟩ := hitem hsteps ha
          obtain ⟨items, hitems, hfound⟩ := ih hrest
          exact ⟨tree :: items, .item (hnext.blanks hblanks) hvalue hitems, .cons hfits hfound⟩

def ReadsMember (member : String → σ → Reader σ) (Step : Nat → String → Tree → σ → σ → Prop) :
    Prop :=
  ∀ ⦃name state limits cursor state' cursor'⦄, 0 < limits.steps →
    member name state limits cursor = .ok (state', cursor') →
    ∃ s start tree, Blanks cursor.ahead (':' :: s) ∧ Blanks s start ∧
      Written (.value tree) start cursor'.ahead ∧ Step limits.depth name tree state state'

theorem membersFrom_eq_ok {member : String → σ → Reader σ}
    {Step : Nat → String → Tree → σ → σ → Prop} (hmember : ReadsMember member Step)
    {budget : Nat} {first : Bool} {state state' : σ}
    (h : membersFrom member budget first state limits cursor = .ok (state', cursor'))
    (hsteps : 0 < limits.steps) :
    ∃ members, Written (.members first members) cursor.ahead cursor'.ahead ∧
      Folds (Step limits.depth) members state state' := by
  induction budget generalizing first cursor state with
  | zero => cases h
  | succ budget ih =>
      rw [membersFrom, bind_eq_ok] at h
      obtain ⟨more, middle, hnext, h⟩ := h
      have hnext := nextMember_eq_ok hnext
      cases more with
      | false =>
          obtain ⟨rfl, rfl⟩ := pure_eq_ok.mp h
          exact ⟨[], .noMember hnext, .nil⟩
      | true =>
          obtain ⟨hseparated, hquote⟩ := hnext
          obtain ⟨name, behind, hkey, h⟩ := bind_eq_ok.mp h
          obtain ⟨state₁, behind', hstep, h⟩ := bind_eq_ok.mp h
          obtain ⟨key, s, hahead, hbody, hname⟩ := key_eq_ok hquote hkey
          obtain ⟨s', start, tree, hcolon, hblanks, hvalue, hstep⟩ := hmember hsteps hstep
          obtain ⟨members, hmembers, hfolds⟩ := ih h
          rw [hahead] at hseparated
          exact ⟨(key, tree) :: members,
            .member hseparated hbody hcolon hblanks hvalue hmembers, .cons hname hstep hfolds⟩

theorem listBody_items_eq_ok {item : Reader α} {Fits : Nat → α → Tree → Prop}
    (hitem : ReadsTree item Fits) {found : List α} (hopen : cursor.ahead.head? = some '[')
    (h : listBody (items item) limits cursor = .ok (found, cursor'))
    (hsteps : 0 < limits.steps) :
    ∃ tree, Written (.value tree) cursor.ahead cursor'.ahead ∧
      Each Fits limits.depth found tree := by
  obtain ⟨depth, start, stop, hdepth, hahead, h, hend⟩ := listBody_eq_ok hopen h
  obtain ⟨budget, _, hbudget, h⟩ := bind_eq_ok.mp h
  cases hbudget
  obtain ⟨items, hitems, hfound⟩ := itemsFrom_eq_ok hitem h hsteps
  rw [hahead, hdepth]
  exact ⟨.array items, .array (hitems.items_blanks hend), .array hfound⟩

theorem members_eq_ok {member : String → σ → Reader σ} {Step : Nat → String → Tree → σ → σ → Prop}
    (hmember : ReadsMember member Step) {state state' : σ}
    (h : members member state limits cursor = .ok (state', cursor')) (hsteps : 0 < limits.steps) :
    ∃ members, Written (.members true members) cursor.ahead cursor'.ahead ∧
      Folds (Step limits.depth) members state state' := by
  obtain ⟨budget, _, hbudget, h⟩ := bind_eq_ok.mp h
  cases hbudget
  exact membersFrom_eq_ok hmember h hsteps

end Parts

section Values

variable {α : Type} {inner : Reader Value} {Fits : Nat → Value → Tree → Prop}

def KeepsNext (Fits : Nat → Value → Tree → Prop) (depth : Nat) (name : String) (tree : Tree)
    (before before' : List (String × Value)) : Prop :=
  ∃ a, before' = (name, a) :: before ∧ Fits depth a tree

theorem readsMember_valueMember (hinner : ReadsTree inner Fits) :
    ReadsMember (valueMember inner) (KeepsNext Fits) := by
  intro name state limits cursor state' cursor' hsteps h
  obtain ⟨_, middle, hcolon, h⟩ := bind_eq_ok.mp h
  obtain ⟨a, middle', hinner', h⟩ := bind_eq_ok.mp h
  obtain ⟨rfl, rfl⟩ := pure_eq_ok.mp h
  obtain ⟨start, tree, hblanks, hvalue, hfits⟩ := hinner hsteps hinner'
  exact ⟨_, start, tree, colon_eq_ok hcolon, hblanks, hvalue, a, rfl, hfits⟩

theorem folds_keepsNext {depth : Nat} {members : List (List Char × Tree)}
    {before after : List (String × Value)} :
    Folds (KeepsNext Fits depth) members before after ↔
      ∃ found, after = found.reverse ++ before ∧
        List.Forall₂ (KeepsMember (Fits depth)) found members := by
  constructor
  · intro h
    induction h with
    | nil => exact ⟨[], rfl, .nil⟩
    | cons hname hstep _ ih =>
        obtain ⟨a, rfl, hfits⟩ := hstep
        obtain ⟨found, rfl, hfound⟩ := ih
        exact ⟨(_, a) :: found, by simp, .cons ⟨hname, hfits⟩ hfound⟩
  · rintro ⟨found, rfl, h⟩
    induction h generalizing before with
    | nil => exact .nil
    | @cons entry member found rest hmember _ ih =>
        refine .cons hmember.1 ⟨entry.2, rfl, hmember.2⟩ ?_
        rw [List.reverse_cons, List.append_assoc]
        exact ih

theorem readsTree_valueOf (hinner : ReadsTree inner Fits) :
    ReadsTree (valueOf inner) (KeepsWithin Fits) := by
  intro limits cursor a cursor' hsteps h
  rw [valueOf, bind_eq_ok] at h
  obtain ⟨found, start, hpeek, h⟩ := h
  obtain ⟨hblanks, hfound⟩ := peekToken_eq_ok hpeek
  split at h
  · exact absurd h failNext_ne_ok
  · obtain ⟨rfl, hahead⟩ := wordBehind_eq_ok hfound h
    rw [hahead] at hblanks
    exact ⟨_, .null, hblanks, .null, .scalar .null⟩
  · obtain ⟨rfl, hahead⟩ := wordBehind_eq_ok hfound h
    rw [hahead] at hblanks
    exact ⟨_, .boolean true, hblanks, .trueWord, .scalar .boolean⟩
  · obtain ⟨rfl, hahead⟩ := wordBehind_eq_ok hfound h
    rw [hahead] at hblanks
    exact ⟨_, .boolean false, hblanks, .falseWord, .scalar .boolean⟩
  · obtain ⟨_, middle, hskip, h⟩ := bind_eq_ok.mp h
    obtain ⟨numeral, middle', hnumber, h⟩ := bind_eq_ok.mp h
    obtain ⟨rfl, rfl⟩ := pure_eq_ok.mp h
    obtain ⟨n, text, htext, hahead, hnumeral⟩ := number_form hsteps hnumber
    have hnumber := IsNumber.negative htext
    rw [skip_of_head? hskip hfound, hahead] at hblanks
    exact ⟨_, .number ('-' :: text), hblanks, hnumber.written _, .scalar (.number hnumber hnumeral)⟩
  · obtain ⟨_, middle, hskip, h⟩ := bind_eq_ok.mp h
    obtain ⟨text, middle', hstring, h⟩ := bind_eq_ok.mp h
    obtain ⟨rfl, rfl⟩ := pure_eq_ok.mp h
    obtain ⟨body, htext, hbody⟩ := stringBody_eq_ok hstring
    rw [skip_of_head? hskip hfound] at hblanks
    exact ⟨_, .string body, hblanks, .string hbody, .scalar (.string htext)⟩
  · obtain ⟨values, middle, hlist, h⟩ := bind_eq_ok.mp h
    obtain ⟨rfl, rfl⟩ := pure_eq_ok.mp h
    obtain ⟨_, hwritten, hvalues⟩ := listBody_items_eq_ok hinner hfound hlist hsteps
    exact ⟨_, _, hblanks, hwritten, hvalues.keeps⟩
  · obtain ⟨found, middle, hobject, h⟩ := bind_eq_ok.mp h
    obtain ⟨rfl, rfl⟩ := pure_eq_ok.mp h
    obtain ⟨depth, inside, stop, hdepth, hahead, hread, hend⟩ := objectBody_eq_ok hfound hobject
    obtain ⟨members, hmembers, hfolds⟩ :=
      members_eq_ok (readsMember_valueMember hinner) hread hsteps
    obtain ⟨found, rfl, hfound⟩ := folds_keepsNext.mp hfolds
    refine ⟨_, .object members, hblanks, ?_, ?_⟩
    · rw [hahead]
      exact .object (hmembers.members_blanks hend)
    · rw [hdepth, List.append_nil, List.reverse_reverse]
      exact .composite (.object hfound)
  · split at h
    · obtain ⟨numeral, middle', hnumber, h⟩ := bind_eq_ok.mp h
      obtain ⟨rfl, rfl⟩ := pure_eq_ok.mp h
      obtain ⟨n, text, htext, hahead, hnumeral⟩ := number_form hsteps hnumber
      have hnumber := IsNumber.positive htext
      refine ⟨_, .number text, hblanks, ?_, .scalar (.number hnumber hnumeral)⟩
      rw [hahead]
      exact hnumber.written _
    · exact absurd h failNext_ne_ok

theorem readsTree_failNext (fault : Fault) (Fits : Nat → α → Tree → Prop) :
    ReadsTree (failNext fault : Reader α) Fits :=
  fun _ _ _ _ _ h => absurd h failNext_ne_ok

theorem readsTree_value : ReadsTree value Keeps := by
  have hwithin (depth : Nat) : ReadsTree (valueWithin depth) fun left a tree =>
      left ≤ depth → Keeps left a tree := by
    induction depth with
    | zero =>
        refine (readsTree_valueOf (readsTree_failNext _ fun _ _ _ => False)).imp ?_
        rintro left a tree (h | h) hleft
        · exact keeps_iff.mpr (.scalar h)
        · omega
    | succ depth ih =>
        refine (readsTree_valueOf ih).imp ?_
        rintro left a tree (h | @⟨_, left, _, h⟩) hleft
        · exact keeps_iff.mpr (.scalar h)
        · exact .inr (h.imp fun a tree h => h (by omega))
  intro limits cursor a cursor' hsteps h
  obtain ⟨start, tree, hblanks, hvalue, hkeeps⟩ := hwithin limits.depth hsteps h
  exact ⟨start, tree, hblanks, hvalue, hkeeps (Nat.le_refl _)⟩

end Values

section Skipping

variable {limits : Limits} {cursor cursor' : Cursor}

theorem skipKey_eq_ok (h : skipKey limits cursor = .ok ((), cursor')) :
    ∃ body s s', Spellable body ∧ Blanks cursor.ahead ('"' :: s) ∧ Body body s s' ∧
      Blanks s' (':' :: cursor'.ahead) := by
  rw [skipKey, bind_eq_ok] at h
  obtain ⟨found, start, hpeek, h⟩ := h
  obtain ⟨hblanks, hfound⟩ := peekToken_eq_ok hpeek
  split at h
  · obtain ⟨_, middle, hskip, h⟩ := bind_eq_ok.mp h
    obtain ⟨budget, _, hbudget, h⟩ := bind_eq_ok.mp h
    cases hbudget
    obtain ⟨_, middle', hstring, h⟩ := bind_eq_ok.mp h
    obtain ⟨body, hspellable, hbody⟩ := skipStringFrom_eq_ok hstring
    rw [skip_of_head? hskip hfound] at hblanks
    exact ⟨body, _, _, hspellable, hblanks, hbody, colon_eq_ok h⟩
  · exact absurd h failNext_ne_ok
  · exact absurd h failNext_ne_ok

theorem skipLeaf_eq_ok {c : Char} (hc : cursor.ahead.head? = some c)
    (h : skipLeaf c limits cursor = .ok ((), cursor')) :
    ∃ tree, tree.Valid ∧ Written (.value tree) cursor.ahead cursor'.ahead := by
  rw [skipLeaf.eq_def] at h
  split at h
  · obtain ⟨_, middle, hskip, h⟩ := bind_eq_ok.mp h
    rw [skip_of_head? hskip hc, word_eq_ok h]
    exact ⟨_, .null, .null⟩
  · obtain ⟨_, middle, hskip, h⟩ := bind_eq_ok.mp h
    rw [skip_of_head? hskip hc, word_eq_ok h]
    exact ⟨_, .boolean, .trueWord⟩
  · obtain ⟨_, middle, hskip, h⟩ := bind_eq_ok.mp h
    rw [skip_of_head? hskip hc, word_eq_ok h]
    exact ⟨_, .boolean, .falseWord⟩
  · obtain ⟨_, middle, hskip, h⟩ := bind_eq_ok.mp h
    obtain ⟨n, text, htext, hahead⟩ := skipNumber_form h
    have hnumber := IsNumber.negative htext
    rw [skip_of_head? hskip hc, hahead]
    exact ⟨_, .number hnumber, hnumber.written _⟩
  · obtain ⟨_, middle, hskip, h⟩ := bind_eq_ok.mp h
    obtain ⟨budget, _, hbudget, h⟩ := bind_eq_ok.mp h
    cases hbudget
    obtain ⟨body, hspellable, hbody⟩ := skipStringFrom_eq_ok h
    rw [skip_of_head? hskip hc]
    exact ⟨_, .string hspellable, .string hbody⟩
  · split at h
    · obtain ⟨n, text, htext, hahead⟩ := skipNumber_form h
      have hnumber := IsNumber.positive htext
      rw [hahead]
      exact ⟨_, .number hnumber, hnumber.written _⟩
    · exact absurd h failNext_ne_ok

/-- What is left of a composite value, from its beginning or from behind an item on. -/
def Inside (first : Bool) (s t : List Char) : Nesting → Prop
  | .list => ∃ items, Tree.Valid (.array items) ∧ Written (.items first items) s (']' :: t)
  | .object => ∃ members, Tree.Valid (.object members) ∧
      Written (.members first members) s ('\x7d' :: t)

def Closes : List Nesting → List Char → List Char → Prop
  | [], s, t => s = t
  | nesting :: outer, s, t => ∃ middle, Inside false s middle nesting ∧ Closes outer middle t

def Skips : Stage → List Nesting → List Char → List Char → Prop
  | .value, outer, s, t => ∃ start tree middle, Blanks s start ∧ tree.Valid ∧
      Written (.value tree) start middle ∧ Closes outer middle t
  | .closed, outer, s, t => Closes outer s t
  | .opened, nesting :: outer, s, t => ∃ middle, Inside true s middle nesting ∧
      Closes outer middle t
  | .opened, [], s, t => s = t

theorem skipEntry_eq_ok {nesting : Nesting} {p : Reader Unit}
    (h : (if nesting = .object then skipKey >>= fun _ => p else p) limits cursor =
      .ok ((), cursor')) :
    ∃ middle, (if nesting = .object then skipKey else pure ()) limits cursor = .ok ((), middle) ∧
      p limits middle = .ok ((), cursor') := by
  cases nesting with
  | list => exact ⟨cursor, rfl, h⟩
  | object =>
      obtain ⟨_, middle, hkey, h⟩ := bind_eq_ok.mp h
      exact ⟨middle, hkey, h⟩

theorem skipFrom_inside_eq_ok {budget : Nat} {first : Bool} {nesting : Nesting}
    {outer : List Nesting}
    (h : skipFrom (budget + 1) (if first then .opened else .closed) (nesting :: outer) limits
      cursor = .ok ((), cursor')) :
    (∃ behind, Blanks cursor.ahead (nesting.close :: behind.ahead) ∧
      skipFrom budget .closed outer limits behind = .ok ((), cursor')) ∨
    ∃ start middle, Separated first cursor.ahead start.ahead ∧
      (if nesting = .object then skipKey else pure ()) limits start = .ok ((), middle) ∧
      skipFrom budget .value (nesting :: outer) limits middle = .ok ((), cursor') := by
  cases first with
  | true =>
      obtain ⟨found, start, hpeek, h⟩ := bind_eq_ok.mp h
      obtain ⟨hblanks, hfound⟩ := peekToken_eq_ok hpeek
      cases found with
      | none => exact absurd h failNext_ne_ok
      | some c =>
          dsimp only at h
          split at h
          · next hclose =>
              obtain ⟨_, behind, hskip, h⟩ := bind_eq_ok.mp h
              rw [skip_of_head? hskip hfound, hclose] at hblanks
              exact .inl ⟨behind, hblanks, h⟩
          · obtain ⟨middle, hkey, h⟩ := skipEntry_eq_ok h
            exact .inr ⟨start, middle, hblanks, hkey, h⟩
  | false =>
      obtain ⟨found, start, hpeek, h⟩ := bind_eq_ok.mp h
      obtain ⟨hblanks, hfound⟩ := peekToken_eq_ok hpeek
      cases found with
      | none => exact absurd h failNext_ne_ok
      | some c =>
          dsimp only at h
          split at h
          · next hclose =>
              obtain ⟨_, behind, hskip, h⟩ := bind_eq_ok.mp h
              rw [skip_of_head? hskip hfound, hclose] at hblanks
              exact .inl ⟨behind, hblanks, h⟩
          · split at h
            · exact absurd h failNext_ne_ok
            · next hcomma =>
                obtain ⟨_, behind, hskip, h⟩ := bind_eq_ok.mp h
                obtain ⟨middle, hkey, h⟩ := skipEntry_eq_ok h
                have hcomma : c = ',' := by simpa using hcomma
                rw [skip_of_head? hskip hfound, hcomma] at hblanks
                exact .inr ⟨behind, middle, ⟨_, hblanks, .refl _⟩, hkey, h⟩

theorem Skips.inside {nesting : Nesting} {outer : List Nesting} {first : Bool} {start : Cursor}
    {s t : List Char} (hseparated : Separated first s start.ahead)
    (hkey : (if nesting = .object then skipKey else pure ()) limits start = .ok ((), cursor))
    (h : Skips .value (nesting :: outer) cursor.ahead t) :
    ∃ middle, Inside first s middle nesting ∧ Closes outer middle t := by
  obtain ⟨start', tree, middle, hblanks, hvalid, hvalue, behind, hinside, hcloses⟩ := h
  refine ⟨behind, ?_, hcloses⟩
  cases nesting with
  | list =>
      obtain ⟨-, rfl⟩ := pure_eq_ok.mp hkey
      obtain ⟨items, hitems, hwritten⟩ := hinside
      cases hitems with
      | array hitems =>
          exact ⟨tree :: items, .array (List.forall_mem_cons.mpr ⟨hvalid, hitems⟩),
            .item (hseparated.blanks hblanks) hvalue hwritten⟩
  | object =>
      obtain ⟨body, s₁, s₂, hspellable, hquote, hbody, hcolon⟩ := skipKey_eq_ok hkey
      obtain ⟨members, hmembers, hwritten⟩ := hinside
      cases hmembers with
      | object hkeys hmembers =>
          exact ⟨(body, tree) :: members,
            .object (List.forall_mem_cons.mpr ⟨hspellable, hkeys⟩)
              (List.forall_mem_cons.mpr ⟨hvalid, hmembers⟩),
            .member (hseparated.blanks hquote) hbody hcolon hblanks hvalue hwritten⟩

theorem inside_close {nesting : Nesting} {first : Bool} {s t : List Char}
    (h : Blanks s (nesting.close :: t)) : Inside first s t nesting := by
  cases nesting with
  | list => exact ⟨[], .array (by simp), .noItem h⟩
  | object => exact ⟨[], .object (by simp) (by simp), .noMember h⟩

theorem skipFrom_eq_ok {budget : Nat} {stage : Stage} {outer : List Nesting}
    (h : skipFrom budget stage outer limits cursor = .ok ((), cursor')) :
    Skips stage outer cursor.ahead cursor'.ahead := by
  induction budget generalizing stage outer cursor with
  | zero => cases h
  | succ budget ih =>
      have hinside (first : Bool) {nesting : Nesting} {outer : List Nesting}
          (h : skipFrom (budget + 1) (if first then .opened else .closed) (nesting :: outer) limits
            cursor = .ok ((), cursor')) :
          ∃ middle, Inside first cursor.ahead middle nesting ∧
            Closes outer middle cursor'.ahead := by
        obtain ⟨behind, hclose, h⟩ | ⟨start, middle, hseparated, hkey, h⟩ :=
          skipFrom_inside_eq_ok h
        · exact ⟨behind.ahead, inside_close hclose, ih h⟩
        · exact (ih h).inside hseparated hkey
      cases stage with
      | value =>
          obtain ⟨found, start, hpeek, h⟩ := bind_eq_ok.mp h
          obtain ⟨hblanks, hfound⟩ := peekToken_eq_ok hpeek
          split at h
          · exact absurd h failNext_ne_ok
          · obtain ⟨_, middle, hskip, h⟩ := bind_eq_ok.mp h
            obtain ⟨behind, ⟨items, hvalid, hitems⟩, hcloses⟩ := ih h
            rw [skip_of_head? hskip hfound] at hblanks
            exact ⟨_, .array items, behind, hblanks, hvalid, .array hitems, hcloses⟩
          · obtain ⟨_, middle, hskip, h⟩ := bind_eq_ok.mp h
            obtain ⟨behind, ⟨members, hvalid, hmembers⟩, hcloses⟩ := ih h
            rw [skip_of_head? hskip hfound] at hblanks
            exact ⟨_, .object members, behind, hblanks, hvalid, .object hmembers, hcloses⟩
          · obtain ⟨_, middle, hleaf, h⟩ := bind_eq_ok.mp h
            obtain ⟨tree, hvalid, hvalue⟩ := skipLeaf_eq_ok hfound hleaf
            exact ⟨_, tree, _, hblanks, hvalid, hvalue, ih h⟩
      | opened =>
          cases outer with
          | nil =>
              obtain ⟨-, rfl⟩ := pure_eq_ok.mp h
              rfl
          | cons nesting outer => exact hinside true h
      | closed =>
          cases outer with
          | nil =>
              obtain ⟨-, rfl⟩ := pure_eq_ok.mp h
              rfl
          | cons nesting outer => exact hinside false h

theorem readsTree_skipValue : ReadsTree skipValue fun _ _ tree => tree.Valid := by
  intro limits cursor _ cursor' _ h
  obtain ⟨budget, _, hbudget, h⟩ := bind_eq_ok.mp h
  cases hbudget
  obtain ⟨start, tree, middle, hblanks, hvalid, hvalue, rfl⟩ := skipFrom_eq_ok h
  exact ⟨start, tree, hblanks, hvalue, hvalid⟩

end Skipping

section Wanted

variable {α : Type} {limits : Limits} {cursor cursor' : Cursor} {a : α}

theorem refuse_ne_ok {expected : String} :
    (refuse expected : Reader α) limits cursor ≠ .ok (a, cursor') := by
  intro h
  obtain ⟨found, middle, -, h⟩ := bind_eq_ok.mp h
  split at h
  · cases h
  · cases h
  · split at h
    · obtain ⟨_, _, -, h⟩ := bind_eq_ok.mp h
      cases h
    · exact failNext_ne_ok h
  · exact failNext_ne_ok h

theorem peekValue_eq_ok {c : Char} (h : peekValue limits cursor = .ok (c, cursor')) :
    Blanks cursor.ahead cursor'.ahead ∧ cursor'.ahead.head? = some c := by
  obtain ⟨found, middle, hpeek, h⟩ := bind_eq_ok.mp h
  split at h
  · obtain ⟨rfl, rfl⟩ := pure_eq_ok.mp h
    exact peekToken_eq_ok hpeek
  · exact absurd h failNext_ne_ok

inductive KeepsText : Nat → String → Tree → Prop
  | string : Spells body text → KeepsText depth text (.string body)

theorem readsTree_string : ReadsTree string KeepsText := by
  intro limits cursor text cursor' _ h
  obtain ⟨c, start, hpeek, h⟩ := bind_eq_ok.mp h
  obtain ⟨hblanks, hfound⟩ := peekValue_eq_ok hpeek
  split at h
  · next hquote =>
      obtain ⟨_, middle, hskip, h⟩ := bind_eq_ok.mp h
      obtain ⟨body, htext, hbody⟩ := stringBody_eq_ok h
      rw [skip_of_head? hskip (hquote ▸ hfound)] at hblanks
      exact ⟨_, .string body, hblanks, .string hbody, .string htext⟩
  · exact absurd h refuse_ne_ok

theorem ReadsTree.optional {p : Reader α} {Fits : Nat → α → Tree → Prop} (hp : ReadsTree p Fits) :
    ReadsTree (Reader.optional p) fun depth => Optionally (Fits depth) := by
  intro limits cursor a cursor' hsteps h
  obtain ⟨found, start, hpeek, h⟩ := bind_eq_ok.mp h
  obtain ⟨hblanks, hfound⟩ := peekToken_eq_ok hpeek
  split at h
  · next hnull =>
      obtain ⟨rfl, hahead⟩ := wordBehind_eq_ok (hfound.trans (beq_iff_eq.mp hnull)) h
      rw [hahead] at hblanks
      exact ⟨_, .null, hblanks, .null, .inl ⟨rfl, rfl⟩⟩
  · obtain ⟨b, middle, hb, h⟩ := bind_eq_ok.mp h
    obtain ⟨rfl, rfl⟩ := pure_eq_ok.mp h
    obtain ⟨start', tree, hblanks', hvalue, hfits⟩ := hp hsteps hb
    exact ⟨start', tree, hblanks.trans hblanks', hvalue, .inr ⟨b, rfl, hfits⟩⟩

theorem ReadsTree.sequence {item : Reader α} {Fits : Nat → α → Tree → Prop}
    (hitem : ReadsTree item Fits) : ReadsTree (Reader.sequence item) (Each Fits) := by
  intro limits cursor found cursor' hsteps h
  obtain ⟨c, start, hpeek, h⟩ := bind_eq_ok.mp h
  obtain ⟨hblanks, hfound⟩ := peekValue_eq_ok hpeek
  split at h
  · next hopen =>
      obtain ⟨tree, hvalue, hitems⟩ := listBody_items_eq_ok hitem (hopen ▸ hfound) h hsteps
      exact ⟨_, tree, hblanks, hvalue, hitems⟩
  · exact absurd h refuse_ne_ok

end Wanted

/-! ## Records -/

section Records

variable {σ : Type} {fields : List (FieldReader σ)} {Sets : Nat → String → Tree → σ → σ → Prop}

def ReadsFields (fields : List (FieldReader σ)) (Sets : Nat → String → Tree → σ → σ → Prop) :
    Prop :=
  ∀ field ∈ fields, ∀ state,
    ReadsTree (field.read state) fun depth state' tree => Sets depth field.name tree state state'

theorem readsMember_fieldMember (hfields : ReadsFields fields Sets) :
    ReadsMember (fieldMember fields) fun depth => FieldStep fields (Sets depth) := by
  rintro name ⟨seen, state⟩ limits cursor state' cursor' hsteps h
  rw [fieldMember] at h
  cases hfield : fields.find? (·.name == name) with
  | some field =>
      have hmem := List.mem_of_find?_eq_some hfield
      have hname : field.name = name := by simpa using List.find?_some hfield
      rw [hfield] at h
      dsimp only at h
      split at h
      · exact absurd h failAround_ne_ok
      · next hseen =>
          obtain ⟨_, middle, hcolon, h⟩ := bind_eq_ok.mp h
          obtain ⟨filled, middle', hread, h⟩ := bind_eq_ok.mp h
          obtain ⟨rfl, rfl⟩ := pure_eq_ok.mp h
          obtain ⟨start, tree, hblanks, hvalue, hsets⟩ := hfields field hmem state hsteps hread
          rw [hname] at hsets
          exact ⟨_, start, tree, colon_eq_ok hcolon, hblanks, hvalue,
            .field ⟨field, hmem, hname⟩ (by simpa using hseen) hsets⟩
  | none =>
      rw [hfield] at h
      obtain ⟨_, middle, hcolon, h⟩ := bind_eq_ok.mp h
      obtain ⟨_, middle', hskip, h⟩ := bind_eq_ok.mp h
      obtain ⟨rfl, rfl⟩ := pure_eq_ok.mp h
      obtain ⟨start, tree, hblanks, hvalue, hvalid⟩ := readsTree_skipValue hsteps hskip
      refine ⟨_, start, tree, colon_eq_ok hcolon, hblanks, hvalue,
        .other (fun field hmem => ?_) hvalid⟩
      simpa using List.find?_eq_none.mp hfield field hmem

theorem recordItems_eq_ok (hfields : ReadsFields fields Sets) {expected : String} {index : Nat}
    {limits : Limits} {cursor cursor' : Cursor} {state state' : σ}
    (h : recordItems expected index fields state limits cursor = .ok (state', cursor'))
    (hsteps : 0 < limits.steps) :
    ∃ items, Written (.items (index == 0) items) cursor.ahead cursor'.ahead ∧
      FieldItems (Sets limits.depth) fields items state state' := by
  induction fields generalizing index state cursor with
  | nil =>
      obtain ⟨rfl, rfl⟩ := pure_eq_ok.mp h
      exact ⟨[], .noItem (.refl _), .nil⟩
  | cons field fields ih =>
      have ih {index : Nat} {state : σ} {cursor : Cursor} :=
        @ih (fun field hmem => hfields field (List.mem_cons_of_mem _ hmem)) index cursor state
      obtain ⟨more, middle, hnext, h⟩ := bind_eq_ok.mp h
      have hnext := nextItem_eq_ok hnext
      cases more with
      | false =>
          rw [if_neg Bool.false_ne_true] at h
          split at h
          · next htrailing =>
              obtain ⟨items, hitems, hset⟩ := ih h
              obtain rfl := hitems.items_of_closer hnext.2
              exact ⟨[], hitems.items_after_blanks hnext.1, .trailing htrailing hset⟩
          · exact absurd h failAround_ne_ok
      | true =>
          obtain ⟨filled, middle', hread, h⟩ := bind_eq_ok.mp h
          obtain ⟨start, tree, hblanks, hvalue, hset⟩ :=
            hfields field List.mem_cons_self state hsteps hread
          obtain ⟨items, hitems, hsets⟩ := ih h
          exact ⟨tree :: items, .item (hnext.blanks hblanks) hvalue hitems, .cons hset hsets⟩

theorem readsTree_record (hfields : ReadsFields fields Sets) (title : String) (start : σ) :
    ReadsTree (record title fields start) (KeepsRecord fields Sets start) := by
  intro limits cursor state cursor' hsteps h
  obtain ⟨c, begin, hpeek, h⟩ := bind_eq_ok.mp h
  obtain ⟨hblanks, hfound⟩ := peekValue_eq_ok hpeek
  split at h
  · obtain ⟨depth, inside, stop, hdepth, hahead, h, hend⟩ := listBody_eq_ok hfound h
    obtain ⟨items, hitems, hsets⟩ := recordItems_eq_ok hfields h hsteps
    rw [hahead] at hblanks
    rw [hdepth]
    exact ⟨_, .array items, hblanks, .array (hitems.items_blanks hend), .items hsets⟩
  · obtain ⟨depth, inside, stop, hdepth, hahead, h, hend⟩ := objectBody_eq_ok hfound h
    obtain ⟨⟨seen, filled⟩, middle, hmembers, h⟩ := bind_eq_ok.mp h
    obtain ⟨members, hmembers, hfolds⟩ :=
      members_eq_ok (readsMember_fieldMember hfields) hmembers hsteps
    dsimp only at h
    cases hmissing : fields.find? fun field => field.required && !seen.contains field.name with
    | some field =>
        rw [hmissing] at h
        exact absurd h failAround_ne_ok
    | none =>
        rw [hmissing] at h
        obtain ⟨rfl, rfl⟩ := pure_eq_ok.mp h
        rw [hahead] at hblanks
        rw [hdepth]
        refine ⟨_, .object members, hblanks, .object (hmembers.members_blanks hend),
          .members hfolds fun field hmem hrequired => ?_⟩
        simpa [hrequired] using List.find?_eq_none.mp hmissing field hmem
  · exact absurd h refuse_ne_ok

end Records

/-! ## Whole texts -/

theorem ofText_eq_ok {α : Type} {p : Reader α} {Fits : Nat → α → Tree → Prop}
    (hp : ReadsTree p Fits) {text : List Char} {a : α} (h : ofText p text = .ok a) :
    ∃ tree, tree.IsTreeOf text ∧ Fits depthLimit a tree := by
  rw [ofText] at h
  split at h
  · next found cursor' hwhole =>
      cases h
      obtain ⟨b, stop, hread, h⟩ := bind_eq_ok.mp hwhole
      obtain ⟨found, behind, hpeek, h⟩ := bind_eq_ok.mp h
      obtain ⟨hend, hfound⟩ := peekToken_eq_ok hpeek
      obtain ⟨start, tree, hblanks, hvalue, hfits⟩ := hp (Nat.succ_pos _) hread
      split at h
      · exact absurd h failNext_ne_ok
      · obtain ⟨rfl, rfl⟩ := pure_eq_ok.mp h
        rw [List.head?_eq_none_iff.mp hfound] at hend
        exact ⟨tree, ⟨start, _, hblanks, hvalue, hend⟩, hfits⟩
  · cases h

end TableLineage.Json.Reader
