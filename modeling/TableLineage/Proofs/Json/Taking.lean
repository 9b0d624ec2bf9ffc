import TableLineage.Proofs.Json.Scanning

/-!
# What readers get from a text

`Takes` says what a reader gets from the characters ahead, whatever their place.
Its rules follow the parts that readers are made of.  A string is taken where
its inside has no control characters and its escapes stand for a text.
-/

namespace TableLineage.Json

section Bodies

variable {body s t : List Char} {c : Char}

theorem Body.eq_append (h : Body body s t) : s = body ++ '"' :: t := by
  induction h with
  | close => rfl
  | plain _ _ _ ih => rw [ih]; rfl
  | escaped _ ih => rw [ih]; rfl

theorem Body.of_cons (h : Body (c :: body) s t) (hc : c ≠ '\\') : ∃ s', Body body s' t := by
  cases h with
  | plain _ _ h => exact ⟨_, h⟩
  | escaped _ => exact absurd rfl hc

theorem Body.of_append {front : List Char} (h : Body (front ++ body) s t)
    (hfront : ∀ c ∈ front, c ≠ '\\') : ∃ s', Body body s' t := by
  induction front generalizing s with
  | nil => exact ⟨s, h⟩
  | cons c front ih =>
      obtain ⟨hc, hfront⟩ := List.forall_mem_cons.mp hfront
      obtain ⟨s', h⟩ := h.of_cons hc
      exact ih h hfront

end Bodies

namespace Reader

/-- From `s`, the reader gets `a` and stops at `t`, wherever `s` stands. -/
def Takes (p : Reader α) (limits : Limits) (s : List Char) (a : α) (t : List Char) : Prop :=
  ∀ place, ∃ place', p limits ⟨s, place⟩ = .ok (a, ⟨t, place'⟩)

section Rules

variable {α β : Type} {limits : Limits} {s t u : List Char} {a : α} {b : β} {c : Char}

theorem Takes.pure (a : α) (s : List Char) : Takes (Pure.pure a) limits s a s :=
  fun place => ⟨place, rfl⟩

theorem Takes.bind {p : Reader α} {f : α → Reader β} (hp : Takes p limits s a t)
    (hf : Takes (f a) limits t b u) : Takes (p >>= f) limits s b u := by
  intro place
  obtain ⟨place₁, hp⟩ := hp place
  obtain ⟨place₂, hf⟩ := hf place₁
  exact ⟨place₂, bind_eq_ok.mpr ⟨a, _, hp, hf⟩⟩

theorem takes_peek (s : List Char) : Takes peek limits s s.head? s := fun place => ⟨place, rfl⟩

theorem takes_next (c : Char) (s : List Char) : Takes next limits (c :: s) (some c) s :=
  fun place => ⟨place.after c, rfl⟩

theorem takes_skip (c : Char) (s : List Char) : Takes skip limits (c :: s) () s :=
  fun place => ⟨place.after c, rfl⟩

theorem takes_budget (s : List Char) : Takes budget limits s limits.steps s :=
  fun place => ⟨place, rfl⟩

theorem takes_digits (s : List Char) :
    Takes digits limits s (s.takeWhile isDigit) (s.dropWhile isDigit) := by
  intro place
  refine ⟨(Cursor.skipWhile isDigit ⟨s, place⟩).place, ?_⟩
  rw [← ahead_skipWhile isDigit ⟨s, place⟩]
  rfl

theorem takes_peekToken (s : List Char) :
    Takes peekToken limits s (s.dropWhile Cursor.isBlank).head?
      (s.dropWhile Cursor.isBlank) := by
  intro place
  refine ⟨(Cursor.pastBlanks ⟨s, place⟩).place, ?_⟩
  rw [← ahead_skipWhile Cursor.isBlank ⟨s, place⟩]
  rfl

theorem takes_token (h : Blanks s (c :: t)) (hc : Cursor.isBlank c = false) :
    Takes peekToken limits s (some c) (c :: t) := by
  have hpeek := @takes_peekToken limits s
  rwa [← h.eq_dropWhile hc] at hpeek

theorem takes_noToken (h : Blanks s []) : Takes peekToken limits s none [] := by
  have hpeek := @takes_peekToken limits s
  obtain ⟨taken, rfl, htaken⟩ := h
  rw [List.append_nil] at hpeek ⊢
  rwa [List.dropWhile_eq_nil_iff.mpr htaken] at hpeek

theorem takes_word (letters s : List Char) : Takes (word letters) limits (letters ++ s) () s := by
  induction letters with
  | nil => exact .pure () s
  | cons c letters ih =>
      intro place
      obtain ⟨place', ih⟩ := ih (place.after c)
      refine ⟨place', ?_⟩
      rw [List.cons_append, word]
      dsimp only
      rw [if_pos rfl, ih]

end Rules

/-! ## Strings -/

inductive Pieces : List Char → List Nat → Prop
  | nil : Pieces [] []
  | plain : c ≠ '"' → c ≠ '\\' → Pieces body units →
      Pieces (c :: body) (Text.Utf16.unitsOfChar c ++ units)
  | simple : simpleEscape? c = some meant → Pieces body units →
      Pieces ('\\' :: c :: body) (Text.Utf16.unitsOfChar meant ++ units)
  | hex : hexValue? [a, b, c, d] = some unit → Pieces body units →
      Pieces ('\\' :: 'u' :: a :: b :: c :: d :: body) (unit :: units)

section Strings

variable {limits : Limits} {body s t : List Char} {units : List Nat} {budget : Nat}

theorem pieces_of_body (h : Body body s t) (hunits : bodyUnits? body = some units) :
    Pieces body units := by
  fun_induction bodyUnits? body generalizing units s with
  | case1 =>
      cases hunits
      exact .nil
  | case2 a b c d body ih =>
      simp only [Option.bind_eq_bind, Option.bind_eq_some_iff, Option.some.injEq] at hunits
      obtain ⟨unit, hunit, rest, hrest, rfl⟩ := hunits
      cases h with
      | plain _ hslash => exact absurd rfl hslash
      | escaped h =>
          have hdigits : ∀ e ∈ [a, b, c, d], e ≠ '\\' := fun e he =>
            (plain_of_hexValue? hunit e he).2.2.1
          obtain ⟨s', h⟩ := @Body.of_append body _ t [a, b, c, d] h hdigits
          exact .hex hunit (ih h hrest)
  | case3 c body _ ih =>
      simp only [Option.bind_eq_bind, Option.bind_eq_some_iff, Option.some.injEq] at hunits
      obtain ⟨meant, hmeant, rest, hrest, rfl⟩ := hunits
      cases h with
      | plain _ hslash => exact absurd rfl hslash
      | escaped h => exact .simple hmeant (ih h hrest)
  | case4 c body _ hescape ih =>
      simp only [Option.bind_eq_bind, Option.bind_eq_some_iff, Option.some.injEq] at hunits
      obtain ⟨rest, hrest, rfl⟩ := hunits
      cases h with
      | plain hquote hslash h => exact .plain hquote hslash (ih h hrest)
      | escaped h => exact (hescape _ _ rfl rfl).elim

/-- Half of a pair is written as an escape, and so is what comes behind it. -/
theorem Pieces.of_trailing {unit : Nat} {rest : List Nat} (h : Pieces body (unit :: rest))
    (htrailing : Text.Utf16.isTrailing unit = true) :
    ∃ a b c d body', body = '\\' :: 'u' :: a :: b :: c :: d :: body' ∧
      hexValue? [a, b, c, d] = some unit ∧ Pieces body' rest := by
  generalize hfound : unit :: rest = found at h
  have hunits {c : Char} {units : List Nat}
      (hfound : unit :: rest = Text.Utf16.unitsOfChar c ++ units) : False := by
    rcases Text.Utf16.unitsOfChar_cases c with ⟨hunits, -, -, hplain⟩ |
      ⟨leading, trailing, hunits, hleading, -⟩
    · rw [hunits] at hfound
      obtain ⟨rfl, -⟩ := List.cons.inj hfound
      rw [htrailing] at hplain
      cases hplain
    · rw [hunits] at hfound
      obtain ⟨rfl, -⟩ := List.cons.inj hfound
      rw [Text.Utf16.isTrailing_of_isLeading hleading] at htrailing
      cases htrailing
  cases h with
  | nil => cases hfound
  | plain _ _ _ => exact (hunits hfound).elim
  | simple _ _ => exact (hunits hfound).elim
  | hex hunit h =>
      obtain ⟨rfl, rfl⟩ := List.cons.inj hfound
      exact ⟨_, _, _, _, _, rfl, hunit, h⟩

theorem takes_hexEscape {a b c d : Char} {unit : Nat} (hunit : hexValue? [a, b, c, d] = some unit) :
    Takes hexEscape limits (a :: b :: c :: d :: s) unit s := by
  intro place
  refine ⟨place.afterAll [a, b, c, d], ?_⟩
  have hplain := plain_of_hexValue? hunit
  simp only [List.forall_mem_cons] at hplain
  obtain ⟨⟨ha, -⟩, ⟨hb, -⟩, ⟨hc, -⟩, ⟨hd, -⟩, -⟩ := hplain
  have hsize : ¬ Text.byteSize [a, b, c, d] < 4 := by simp [ha, hb, hc, hd]
  have htake : (a :: b :: c :: d :: s).take 4 = [a, b, c, d] := rfl
  rw [hexEscape]
  dsimp only
  rw [htake, if_neg hsize, hunit]
  rfl

theorem takes_pairing (c : Char) (s : List Char) : Takes (pairing c) limits (c :: s) () s := by
  refine .bind (takes_peek _) ?_
  rw [List.head?_cons]
  dsimp only
  rw [if_pos rfl]
  exact takes_skip c s

theorem takes_escape_simple {c meant : Char} (h : simpleEscape? c = some meant) :
    Takes escape limits (c :: s) meant s := by
  refine .bind (takes_peek _) ?_
  rw [List.head?_cons]
  have hu : c ≠ 'u' := by
    rintro rfl
    cases h
  split
  · contradiction
  · next heq => exact absurd (Option.some.inj heq) hu
  · next heq =>
      cases heq
      rw [h]
      exact .bind (takes_skip c s) (.pure meant s)

theorem takes_escape_hex {c : Char} (h : Takes hexCharacter limits s c t) :
    Takes escape limits ('u' :: s) c t :=
  .bind (takes_peek _) (.bind (takes_skip 'u' s) h)

theorem takes_hexCharacter {a b c d : Char} {unit : Nat}
    (hunit : hexValue? [a, b, c, d] = some unit) (hleading : Text.Utf16.isLeading unit = false)
    (htrailing : Text.Utf16.isTrailing unit = false) :
    Takes hexCharacter limits (a :: b :: c :: d :: s) (Char.ofNat unit) s := by
  rw [Bool.eq_false_iff, ne_eq, Text.Utf16.isLeading_iff] at hleading
  rw [Bool.eq_false_iff, ne_eq, Text.Utf16.isTrailing_iff] at htrailing
  refine .bind (takes_hexEscape hunit) ?_
  rw [if_neg (by omega), if_pos (by omega)]
  exact .pure _ _

theorem takes_hexCharacter_pair {a b c d a' b' c' d' : Char} {leading trailing : Nat}
    (hfirst : hexValue? [a, b, c, d] = some leading)
    (hsecond : hexValue? [a', b', c', d'] = some trailing)
    (hleading : Text.Utf16.isLeading leading = true)
    (htrailing : Text.Utf16.isTrailing trailing = true) :
    Takes hexCharacter limits (a :: b :: c :: d :: '\\' :: 'u' :: a' :: b' :: c' :: d' :: s)
      (Char.ofNat (Text.Utf16.pairCode leading trailing)) s := by
  rw [Text.Utf16.isLeading_iff] at hleading
  rw [Text.Utf16.isTrailing_iff] at htrailing
  refine .bind (takes_hexEscape hfirst) ?_
  rw [if_neg (by omega), if_neg (by omega)]
  refine .bind (takes_pairing '\\' _) (.bind (takes_pairing 'u' _)
    (.bind (takes_hexEscape hsecond) ?_))
  rw [if_neg (by omega)]
  exact .pure _ _

theorem takes_stringFrom {before text : List Char} (h : Pieces body units) (hclean : Clean body)
    (hchars : Text.Utf16.charsFrom before units = some text) (hbudget : body.length < budget) :
    Takes (stringFrom budget before) limits (body ++ '"' :: t) (String.ofList text) t := by
  -- A pair of escapes is taken at once, so the induction is on the length.
  induction hlength : body.length using Nat.strong_induction_on
    generalizing body units before budget with
  | _ length ih =>
      subst hlength
      obtain _ | budget := budget
      · omega
      cases h with
      | nil =>
          obtain rfl : before.reverse = text := by simpa [Text.Utf16.charsFrom] using hchars
          exact .bind (takes_next '"' t) (.pure _ t)
      | @plain c body units hquote hslash h =>
          obtain ⟨hc, hclean⟩ := List.forall_mem_cons.mp hclean
          rw [Text.Utf16.charsFrom_unitsOfChar] at hchars
          have hrest := ih body.length (by simp) h hclean hchars (by simpa using hbudget) rfl
          refine .bind (takes_next c _) ?_
          split
          · contradiction
          · next heq => exact absurd (Option.some.inj heq) hquote
          · next heq => exact absurd (Option.some.inj heq) hslash
          · next heq =>
              cases heq
              rw [hc, if_neg Bool.false_ne_true]
              exact hrest
      | @simple c meant body units hmeant h =>
          have hclean : Clean body := fun d hd => hclean d (by simp [hd])
          have hbudget : body.length < budget := by
            simp only [List.length_cons] at hbudget
            omega
          rw [Text.Utf16.charsFrom_unitsOfChar] at hchars
          have hrest := ih body.length (by simp only [List.length_cons]; omega) h hclean hchars
            hbudget rfl
          exact .bind (takes_next '\\' _) (.bind (takes_escape_simple hmeant) hrest)
      | @hex a b c d unit body units hunit h =>
          have hclean : Clean body := fun e he => hclean e (by simp [he])
          have hbudget : body.length + 4 < budget := by
            simp only [List.length_cons] at hbudget
            omega
          refine .bind (takes_next '\\' _) ?_
          by_cases hleading : Text.Utf16.isLeading unit = true
          · cases units with
            | nil => simp [Text.Utf16.charsFrom, hleading] at hchars
            | cons next rest =>
                by_cases htrailing : Text.Utf16.isTrailing next = true
                · obtain ⟨a', b', c', d', body', rfl, hnext, h⟩ := h.of_trailing htrailing
                  have hclean : Clean body' := fun e he => hclean e (by simp [he])
                  simp only [List.length_cons] at hbudget
                  rw [Text.Utf16.charsFrom_pair hleading htrailing] at hchars
                  have hrest := ih body'.length (by simp only [List.length_cons]; omega) h hclean
                    hchars (show body'.length < budget by omega) rfl
                  exact .bind (takes_escape_hex
                    (takes_hexCharacter_pair hunit hnext hleading htrailing)) hrest
                · simp [Text.Utf16.charsFrom, hleading, htrailing] at hchars
          · rw [Bool.not_eq_true] at hleading
            have htrailing : Text.Utf16.isTrailing unit = false := by
              rw [← Bool.not_eq_true]
              intro htrailing
              cases units <;> simp [Text.Utf16.charsFrom, hleading, htrailing] at hchars
            rw [Text.Utf16.charsFrom_plain hleading htrailing] at hchars
            have hrest := ih body.length (by simp only [List.length_cons]; omega) h hclean hchars
              (show body.length < budget by omega) rfl
            exact .bind (takes_escape_hex (takes_hexCharacter hunit hleading htrailing)) hrest

theorem takes_skipStringFrom (h : Pieces body units) (hclean : Clean body)
    (hbudget : body.length < budget) :
    Takes (skipStringFrom budget) limits (body ++ '"' :: t) () t := by
  induction h generalizing budget with
  | nil =>
      obtain _ | budget := budget
      · cases hbudget
      exact .bind (takes_peek _) (takes_skip '"' t)
  | @plain c body units hquote hslash _ ih =>
      obtain _ | budget := budget
      · cases hbudget
      obtain ⟨hc, hclean⟩ := List.forall_mem_cons.mp hclean
      have hrest := @ih budget hclean (by simpa using hbudget)
      refine .bind (takes_peek _) ?_
      split
      · contradiction
      · next heq => exact absurd (Option.some.inj heq) hquote
      · next heq => exact absurd (Option.some.inj heq) hslash
      · next heq =>
          cases heq
          rw [hc, if_neg Bool.false_ne_true]
          exact .bind (takes_skip c _) hrest
  | @simple c meant body units hmeant _ ih =>
      obtain _ | budget := budget
      · cases hbudget
      have hbudget : body.length < budget := by
        simp only [List.length_cons] at hbudget
        omega
      have hrest := ih (fun d hd => hclean d (by simp [hd])) hbudget
      refine .bind (takes_peek _) (.bind (takes_skip '\\' _) (.bind (takes_peek _) ?_))
      split
      · contradiction
      · next heq =>
          cases heq
          cases hmeant
      · next heq =>
          cases heq
          rw [hmeant, Option.isSome_some, if_pos rfl]
          exact .bind (takes_skip c _) hrest
  | @hex a b c d unit body units hunit _ ih =>
      obtain _ | budget := budget
      · cases hbudget
      have hbudget : body.length < budget := by
        simp only [List.length_cons] at hbudget
        omega
      have hrest := ih (fun e he => hclean e (by simp [he])) hbudget
      refine .bind (takes_peek _) (.bind (takes_skip '\\' _) (.bind (takes_peek _) ?_))
      exact .bind (takes_skip 'u' _) (.bind (takes_hexEscape hunit) hrest)

end Strings

end Reader

end TableLineage.Json
