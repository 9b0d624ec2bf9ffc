import Mathlib.Data.List.TakeDrop
import Mathlib.Data.List.TakeWhile
import TableLineage.Proofs.Json.Tree
import TableLineage.Proofs.Text.Utf16

/-!
# Words and strings that readers take

A reader that succeeds has taken a piece of text of a certain form.  A string
and its escapes are followed as units of UTF-16, so that what is read is what
the inside of the string stands for.
-/

namespace TableLineage.Json.Reader

section Steps

variable {α β : Type} {limits : Limits} {cursor cursor' : Cursor} {a b : α} {c : Char}

theorem bind_eq_ok {p : Reader α} {f : α → Reader β} {b : β} :
    (p >>= f) limits cursor = .ok (b, cursor') ↔
      ∃ a middle, p limits cursor = .ok (a, middle) ∧ f a limits middle = .ok (b, cursor') := by
  dsimp only [bind]
  constructor
  · intro h
    cases hp : p limits cursor with
    | error failure =>
        rw [hp] at h
        cases h
    | ok found =>
        rw [hp] at h
        exact ⟨found.1, found.2, rfl, h⟩
  · rintro ⟨a, middle, hp, hf⟩
    rw [hp]
    exact hf

theorem pure_eq_ok : (pure a : Reader α) limits cursor = .ok (b, cursor') ↔
    a = b ∧ cursor = cursor' := by
  change Except.ok (a, cursor) = Except.ok (b, cursor') ↔ _
  simp

@[simp]
theorem failHere_ne_ok {fault : Fault} :
    (failHere fault : Reader α) limits cursor ≠ .ok (a, cursor') := by
  intro h
  cases h

@[simp]
theorem failNext_ne_ok {fault : Fault} :
    (failNext fault : Reader α) limits cursor ≠ .ok (a, cursor') := by
  intro h
  rw [failNext] at h
  split at h <;> cases h

@[simp]
theorem failAround_ne_ok {fault : Fault} :
    (failAround fault : Reader α) limits cursor ≠ .ok (a, cursor') := by
  intro h
  cases h

theorem peek_eq_ok {found : Option Char} : peek limits cursor = .ok (found, cursor') ↔
    cursor.ahead.head? = found ∧ cursor = cursor' := by
  simp [peek]

theorem skip_of_head? (hskip : skip limits cursor = .ok ((), cursor'))
    (h : cursor.ahead.head? = some c) : cursor.ahead = c :: cursor'.ahead := by
  obtain ⟨rest, hahead⟩ := List.head?_eq_some_iff.mp h
  rw [skip, bind_eq_ok] at hskip
  obtain ⟨found, middle, hnext, hskip⟩ := hskip
  rw [next, hahead] at hnext
  cases hnext
  cases hskip
  exact hahead

theorem ahead_skipWhile (accepts : Char → Bool) (cursor : Cursor) :
    (cursor.skipWhile accepts).ahead = cursor.ahead.dropWhile accepts := by
  rw [Cursor.skipWhile, List.span_eq_takeWhile_dropWhile]

theorem across_dropWhile (accepts : Char → Bool) (s : List Char) :
    Across accepts s (s.dropWhile accepts) :=
  ⟨s.takeWhile accepts, List.takeWhile_append_dropWhile.symm, fun _ hc =>
    List.mem_takeWhile_imp hc⟩

theorem peekToken_eq_ok {found : Option Char} (h : peekToken limits cursor = .ok (found, cursor')) :
    Blanks cursor.ahead cursor'.ahead ∧ cursor'.ahead.head? = found := by
  rw [peekToken, bind_eq_ok] at h
  obtain ⟨_, middle, hblanks, hpeek⟩ := h
  cases hblanks
  obtain ⟨hfound, rfl⟩ := peek_eq_ok.mp hpeek
  exact ⟨ahead_skipWhile .. ▸ across_dropWhile .., hfound⟩

theorem word_eq_ok {letters : List Char} (h : word letters limits cursor = .ok ((), cursor')) :
    cursor.ahead = letters ++ cursor'.ahead := by
  induction letters generalizing cursor with
  | nil =>
      obtain ⟨-, rfl⟩ := pure_eq_ok.mp h
      rfl
  | cons expected letters ih =>
      rw [word] at h
      dsimp only at h
      split at h
      · cases h
      · next found ahead hahead =>
          split at h
          · next heq => rw [hahead, heq, List.cons_append, ← ih h]
          · cases h

theorem wordBehind_eq_ok {letters : List Char} (hc : cursor.ahead.head? = some c)
    (h : (do skip; word letters; pure a) limits cursor = .ok (b, cursor')) :
    a = b ∧ cursor.ahead = c :: (letters ++ cursor'.ahead) := by
  obtain ⟨_, middle, hskip, h⟩ := bind_eq_ok.mp h
  obtain ⟨_, middle', hword, h⟩ := bind_eq_ok.mp h
  obtain ⟨rfl, rfl⟩ := pure_eq_ok.mp h
  rw [skip_of_head? hskip hc, word_eq_ok hword]
  exact ⟨rfl, rfl⟩

end Steps

/-! ## Strings -/

def Clean (body : List Char) : Prop := ∀ c ∈ body, isControl c = false

instance (body : List Char) : Decidable (Clean body) :=
  List.decidableBAll (isControl · = false) body

structure Spells (body : List Char) (text : String) : Prop where
  clean : Clean body
  text : bodyText? body = some text

structure Spellable (body : List Char) : Prop where
  clean : Clean body
  units : (bodyUnits? body).isSome = true

section Strings

variable {limits : Limits} {cursor cursor' : Cursor} {budget : Nat} {c : Char}

theorem hexDigit?_plain {digit : Nat} (h : hexDigit? c = some digit) :
    c.utf8Size = 1 ∧ c ≠ '"' ∧ c ≠ '\\' ∧ isControl c = false := by
  have hsmall : c.toNat ≤ 127 ∧ c.toNat ≠ 34 ∧ c.toNat ≠ 92 ∧ 32 ≤ c.toNat := by
    have hbounds : '0'.toNat = 48 ∧ '9'.toNat = 57 ∧ 'a'.toNat = 97 ∧ 'f'.toNat = 102 ∧
        'A'.toNat = 65 ∧ 'F'.toNat = 70 := by decide
    simp only [hexDigit?, Char.le_def, UInt32.le_iff_toNat_le, Char.toNat_val] at h
    split at h
    · omega
    · split at h
      · omega
      · split at h
        · omega
        · cases h
  obtain ⟨hascii, hquote, hslash, hcontrol⟩ := hsmall
  refine ⟨?_, ?_, ?_, ?_⟩
  · exact Char.utf8Size_eq_one_iff.mpr hascii
  · rintro rfl
    exact hquote rfl
  · rintro rfl
    exact hslash rfl
  · exact decide_eq_false (by omega)

theorem isSome_foldl_hexDigit? {digits : List Char} {start : Option Nat}
    (h : (digits.foldl (fun value c => do
      let value ← value
      let digit ← hexDigit? c
      some (16 * value + digit)) start).isSome = true) :
    start.isSome = true ∧ ∀ c ∈ digits, (hexDigit? c).isSome = true := by
  induction digits generalizing start with
  | nil => exact ⟨h, by simp⟩
  | cons c digits ih =>
      obtain ⟨hstart, hdigits⟩ := ih h
      cases start with
      | none => cases hstart
      | some value =>
          cases hdigit : hexDigit? c with
          | none => simp [hdigit] at hstart
          | some digit => simpa [hdigit] using hdigits

theorem plain_of_hexValue? {digits : List Char} {value : Nat}
    (h : hexValue? digits = some value) :
    ∀ c ∈ digits, c.utf8Size = 1 ∧ c ≠ '"' ∧ c ≠ '\\' ∧ isControl c = false := by
  intro c hc
  have hsome := (isSome_foldl_hexDigit? (Option.isSome_iff_exists.mpr ⟨value, h⟩)).2 c hc
  obtain ⟨digit, hdigit⟩ := Option.isSome_iff_exists.mp hsome
  exact hexDigit?_plain hdigit

theorem hexEscape_eq_ok {unit : Nat} (h : hexEscape limits cursor = .ok (unit, cursor')) :
    ∃ a b c d, cursor.ahead = a :: b :: c :: d :: cursor'.ahead ∧
      hexValue? [a, b, c, d] = some unit := by
  rw [hexEscape] at h
  split at h
  · cases h
  · next hsize =>
      split at h
      · next value hvalue =>
          cases h
          have hplain := plain_of_hexValue? hvalue
          -- Fewer digits would have fewer bytes.
          match hahead : cursor.ahead with
          | a :: b :: c :: d :: ahead =>
              rw [hahead] at hvalue
              exact ⟨a, b, c, d, rfl, hvalue⟩
          | [a, b, c] => simp_all [Text.byteSize]
          | [a, b] => simp_all [Text.byteSize]
          | [a] => simp_all [Text.byteSize]
          | [] => simp_all [Text.byteSize]
      · cases h

theorem Body.hexEscape {a b c d : Char} {unit : Nat} {body s t : List Char}
    (hunit : hexValue? [a, b, c, d] = some unit) (h : Body body s t) :
    Body ('\\' :: 'u' :: a :: b :: c :: d :: body) ('\\' :: 'u' :: a :: b :: c :: d :: s) t := by
  have hplain := plain_of_hexValue? hunit
  simp only [List.forall_mem_cons] at hplain
  obtain ⟨⟨-, ha⟩, ⟨-, hb⟩, ⟨-, hc⟩, ⟨-, hd⟩, -⟩ := hplain
  exact .escaped (.plain ha.1 ha.2.1 (.plain hb.1 hb.2.1 (.plain hc.1 hc.2.1
    (.plain hd.1 hd.2.1 h))))

theorem clean_hexEscape {a b c d : Char} {unit : Nat} (hunit : hexValue? [a, b, c, d] = some unit) :
    Clean ['u', a, b, c, d] :=
  List.forall_mem_cons.mpr ⟨rfl, fun e he => (plain_of_hexValue? hunit e he).2.2.2⟩

structure Escapes (text : List Char) (c : Char) : Prop where
  clean : Clean text
  body : ∀ {body s t}, Body body s t → Body ('\\' :: (text ++ body)) ('\\' :: (text ++ s)) t
  units : ∀ {body rest}, bodyUnits? body = some rest →
    ∃ units, bodyUnits? ('\\' :: (text ++ body)) = some (units ++ rest) ∧
      ∀ before, Text.Utf16.charsFrom before (units ++ rest) =
        Text.Utf16.charsFrom (c :: before) rest

theorem escapes_hex {a b c d : Char} {unit : Nat} (hunit : hexValue? [a, b, c, d] = some unit)
    (hplain : unit < 0xD800 ∨ 0xDFFF < unit) : Escapes ['u', a, b, c, d] (Char.ofNat unit) := by
  refine ⟨clean_hexEscape hunit, Body.hexEscape hunit, fun hbody => ⟨[unit], ?_, ?_⟩⟩
  · simp [bodyUnits?, hunit, hbody]
  · refine fun before => Text.Utf16.charsFrom_plain ?_ ?_ before _
    · simp [Text.Utf16.isLeading]
      omega
    · simp [Text.Utf16.isTrailing]
      omega

theorem pairing_eq_ok (h : pairing c limits cursor = .ok ((), cursor')) :
    cursor.ahead = c :: cursor'.ahead := by
  rw [pairing, bind_eq_ok] at h
  obtain ⟨found, middle, hpeek, h⟩ := h
  obtain ⟨hfound, rfl⟩ := peek_eq_ok.mp hpeek
  split at h
  · cases h
  · split at h
    · next heq => exact skip_of_head? h (heq ▸ hfound)
    · exact absurd h failNext_ne_ok

theorem hexCharacter_eq_ok (h : hexCharacter limits cursor = .ok (c, cursor')) :
    ∃ digits, Escapes ('u' :: digits) c ∧ cursor.ahead = digits ++ cursor'.ahead := by
  rw [hexCharacter, bind_eq_ok] at h
  obtain ⟨first, middle, hfirst, h⟩ := h
  obtain ⟨a₁, b₁, c₁, d₁, hahead, hfirst⟩ := hexEscape_eq_ok hfirst
  split at h
  · cases h
  · next htrailing =>
      split at h
      · next hleading =>
          obtain ⟨rfl, rfl⟩ := pure_eq_ok.mp h
          exact ⟨[a₁, b₁, c₁, d₁], escapes_hex hfirst hleading, hahead⟩
      · next hleading =>
          simp only [bind_eq_ok] at h
          obtain ⟨_, middle₁, hslash, _, middle₂, hu, second, middle₃, hsecond, h⟩ := h
          obtain ⟨a₂, b₂, c₂, d₂, hahead', hsecond⟩ := hexEscape_eq_ok hsecond
          split at h
          · cases h
          · next htrailing' =>
              obtain ⟨rfl, rfl⟩ := pure_eq_ok.mp h
              have hclean : Clean (['u', a₁, b₁, c₁, d₁] ++ '\\' :: ['u', a₂, b₂, c₂, d₂]) :=
                List.forall_mem_append.mpr ⟨clean_hexEscape hfirst,
                  List.forall_mem_cons.mpr ⟨rfl, clean_hexEscape hsecond⟩⟩
              refine ⟨[a₁, b₁, c₁, d₁, '\\', 'u', a₂, b₂, c₂, d₂],
                ⟨hclean, fun hbody => Body.hexEscape hfirst (Body.hexEscape hsecond hbody),
                  fun hbody => ⟨[first, second], ?_, ?_⟩⟩, ?_⟩
              · simp [bodyUnits?, hfirst, hsecond, hbody]
              · refine fun before => Text.Utf16.charsFrom_pair ?_ ?_ before _
                · simp [Text.Utf16.isLeading]
                  omega
                · simp [Text.Utf16.isTrailing]
                  omega
              · rw [hahead, pairing_eq_ok hslash, pairing_eq_ok hu, hahead']
                rfl

theorem isControl_of_simpleEscape? {meant : Char} (h : simpleEscape? c = some meant) :
    isControl c = false := by
  unfold simpleEscape? at h
  split at h
  case h_9 => cases h
  all_goals rfl

theorem simpleEscape?_escapes {meant : Char} (h : simpleEscape? c = some meant) :
    Escapes [c] meant := by
  refine ⟨List.forall_mem_singleton.mpr (isControl_of_simpleEscape? h),
    fun hbody => .escaped hbody, fun hbody => ⟨Text.Utf16.unitsOfChar meant, ?_, ?_⟩⟩
  · have hu : c ≠ 'u' := by
      rintro rfl
      cases h
    simp [bodyUnits?, h, hbody, hu]
  · exact fun before => Text.Utf16.charsFrom_unitsOfChar before meant _

theorem escape_eq_ok (h : escape limits cursor = .ok (c, cursor')) :
    ∃ text, Escapes text c ∧ cursor.ahead = text ++ cursor'.ahead := by
  rw [escape, bind_eq_ok] at h
  obtain ⟨found, middle, hpeek, h⟩ := h
  obtain ⟨hfound, rfl⟩ := peek_eq_ok.mp hpeek
  split at h
  · cases h
  · rw [bind_eq_ok] at h
    obtain ⟨_, middle, hskip, h⟩ := h
    obtain ⟨digits, hescapes, hahead⟩ := hexCharacter_eq_ok h
    exact ⟨_, hescapes, by rw [skip_of_head? hskip hfound, hahead, List.cons_append]⟩
  · next c' _ =>
      cases hmeant : simpleEscape? c' with
      | none =>
          rw [hmeant] at h
          exact absurd h failNext_ne_ok
      | some meant =>
          rw [hmeant] at h
          dsimp only at h
          rw [bind_eq_ok] at h
          obtain ⟨_, middle, hskip, h⟩ := h
          obtain ⟨rfl, rfl⟩ := pure_eq_ok.mp h
          exact ⟨_, simpleEscape?_escapes hmeant, skip_of_head? hskip hfound⟩

theorem next_eq_ok {found : Option Char} (h : next limits cursor = .ok (found, cursor')) :
    found.toList ++ cursor'.ahead = cursor.ahead := by
  rw [next] at h
  split at h
  · cases h
    rfl
  · next hahead =>
      cases h
      exact hahead.symm

theorem stringFrom_eq_ok {before : List Char} {text : String}
    (h : stringFrom budget before limits cursor = .ok (text, cursor')) :
    ∃ body units, Clean body ∧ Body body cursor.ahead cursor'.ahead ∧
      bodyUnits? body = some units ∧ Text.Utf16.charsFrom before units = some text.toList := by
  induction budget generalizing before cursor with
  | zero => cases h
  | succ budget ih =>
      rw [stringFrom, bind_eq_ok] at h
      obtain ⟨found, middle, hnext, h⟩ := h
      rw [← next_eq_ok hnext]
      split at h
      · cases h
      · obtain ⟨rfl, rfl⟩ := pure_eq_ok.mp h
        exact ⟨[], [], by simp [Clean], .close, rfl, by simp [Text.Utf16.charsFrom]⟩
      · rw [bind_eq_ok] at h
        obtain ⟨c, middle', hescape, h⟩ := h
        obtain ⟨escape, hescapes, hahead⟩ := escape_eq_ok hescape
        obtain ⟨body, rest, hclean, hbody, hrest, htext⟩ := ih h
        obtain ⟨units, hunits, hchars⟩ := hescapes.units hrest
        rw [hahead]
        refine ⟨_, _, ?_, hescapes.body hbody, hunits, (hchars before).trans htext⟩
        exact List.forall_mem_cons.mpr ⟨rfl, List.forall_mem_append.mpr ⟨hescapes.clean, hclean⟩⟩
      · next c hquote hslash =>
          split at h
          · cases h
          · next hcontrol =>
              obtain ⟨body, rest, hclean, hbody, hrest, htext⟩ := ih h
              refine ⟨c :: body, _, List.forall_mem_cons.mpr ⟨by simpa using hcontrol, hclean⟩,
                .plain hquote hslash hbody, bodyUnits?_plain hslash hrest, ?_⟩
              rw [Text.Utf16.charsFrom_unitsOfChar, htext]

theorem skipStringFrom_eq_ok (h : skipStringFrom budget limits cursor = .ok ((), cursor')) :
    ∃ body, Spellable body ∧ Body body cursor.ahead cursor'.ahead := by
  induction budget generalizing cursor with
  | zero => cases h
  | succ budget ih =>
      rw [skipStringFrom, bind_eq_ok] at h
      obtain ⟨found, middle, hpeek, h⟩ := h
      obtain ⟨hfound, rfl⟩ := peek_eq_ok.mp hpeek
      split at h
      · cases h
      · rw [skip_of_head? h hfound]
        exact ⟨[], ⟨by simp [Clean], rfl⟩, .close⟩
      · rw [bind_eq_ok] at h
        obtain ⟨_, behind, hskip, h⟩ := h
        rw [bind_eq_ok] at h
        obtain ⟨escaped, middle', hpeek', h⟩ := h
        obtain ⟨hescaped, rfl⟩ := peek_eq_ok.mp hpeek'
        rw [skip_of_head? hskip hfound]
        split at h
        · cases h
        · simp only [bind_eq_ok] at h
          obtain ⟨_, middle₁, hu, unit, middle₂, hunit, h⟩ := h
          obtain ⟨a, b, c, d, hahead, hunit⟩ := hexEscape_eq_ok hunit
          obtain ⟨body, hspellable, hbody⟩ := ih h
          rw [skip_of_head? hu hescaped, hahead]
          refine ⟨_, ⟨?_, ?_⟩, Body.hexEscape hunit hbody⟩
          · exact List.forall_mem_cons.mpr
              ⟨rfl, List.forall_mem_append.mpr ⟨clean_hexEscape hunit, hspellable.clean⟩⟩
          · obtain ⟨units, hunits⟩ := Option.isSome_iff_exists.mp hspellable.units
            simp [bodyUnits?, hunit, hunits]
        · split at h
          · next c hmeant =>
              rw [bind_eq_ok] at h
              obtain ⟨_, middle₁, hc, h⟩ := h
              obtain ⟨body, hspellable, hbody⟩ := ih h
              obtain ⟨meant, hmeant⟩ := Option.isSome_iff_exists.mp hmeant
              obtain ⟨units, hunits⟩ := Option.isSome_iff_exists.mp hspellable.units
              obtain ⟨found, hfound, -⟩ := (simpleEscape?_escapes hmeant).units hunits
              rw [skip_of_head? hc hescaped]
              refine ⟨_, ⟨?_, by simp_all⟩, .escaped hbody⟩
              exact List.forall_mem_cons.mpr ⟨rfl, List.forall_mem_cons.mpr
                ⟨isControl_of_simpleEscape? hmeant, hspellable.clean⟩⟩
          · exact absurd h failNext_ne_ok
      · next c hquote hslash =>
          split at h
          · cases h
          · next hcontrol =>
              rw [bind_eq_ok] at h
              obtain ⟨_, middle, hskip, h⟩ := h
              obtain ⟨body, hspellable, hbody⟩ := ih h
              obtain ⟨units, hunits⟩ := Option.isSome_iff_exists.mp hspellable.units
              rw [skip_of_head? hskip hfound]
              refine ⟨_, ⟨?_, ?_⟩, .plain hquote hslash hbody⟩
              · exact List.forall_mem_cons.mpr ⟨by simpa using hcontrol, hspellable.clean⟩
              · rw [bodyUnits?_plain hslash hunits, Option.isSome_some]

theorem stringBody_eq_ok {text : String} (h : stringBody limits cursor = .ok (text, cursor')) :
    ∃ body, Spells body text ∧ Body body cursor.ahead cursor'.ahead := by
  rw [stringBody, bind_eq_ok] at h
  obtain ⟨budget, middle, hbudget, h⟩ := h
  cases hbudget
  obtain ⟨body, units, hclean, hbody, hunits, htext⟩ := stringFrom_eq_ok h
  refine ⟨body, ⟨hclean, ?_⟩, hbody⟩
  rw [bodyText?, hunits]
  simp [Text.Utf16.chars?, htext]

end Strings

end TableLineage.Json.Reader
