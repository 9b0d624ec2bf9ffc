import Mathlib.Data.List.Basic
import TableLineage.Text.Utf8

/-!
# Text is shown as it is

Bytes that are text are shown as this text.  An ASCII character is no part of
another character, so what stands in front of it and behind it is shown on its
own.
-/

namespace TableLineage.Text.Utf8

theorem first_ascii {byte : Nat} (h : byte < 0x80) : first byte = ([Char.ofNat byte], none) :=
  if_pos h

theorem next_ascii (begun : Begun) {byte : Nat} (h : byte < 0x80) :
    begun.next byte = ([replacement, Char.ofNat byte], none) := by
  have hout : ¬ (begun.least ≤ byte ∧ byte ≤ begun.most) := by
    have := begun.not_ascii
    omega
  rw [Begun.next, if_neg hout, first_ascii h]

theorem readFrom_ascii (begun : Option Begun) (before after : List UInt8) {byte : UInt8}
    (h : byte.toNat < 0x80) :
    readFrom begun (before ++ byte :: after) =
      readFrom begun before ++ Char.ofNat byte.toNat :: readFrom none after := by
  induction before generalizing begun with
  | nil =>
      cases begun with
      | none => simp [readFrom, step, first_ascii h]
      | some begun => simp [readFrom, step, next_ascii begun h]
  | cons next before ih => simp [readFrom, ih]

theorem shown_ascii (before after : List UInt8) {byte : UInt8} (h : byte.toNat < 0x80) :
    shown (before ++ byte :: after) = shown before ++ Char.ofNat byte.toNat :: shown after :=
  readFrom_ascii none before after h

section Characters

variable (lead next : Nat)

theorem first_of_two (h : 0xC2 ≤ lead ∧ lead < 0xE0) :
    first lead = ([], some ⟨lead - 0xC0, 0, 0x80, 0xBF, by decide⟩) := by
  rw [first, if_neg (by omega), if_neg (by omega), if_pos h.2]

/-- The range of the second byte leaves out what is written shorter and surrogates. -/
theorem first_of_three (h : 0xE0 ≤ lead ∧ lead < 0xF0) (hnext : 0x80 ≤ next ∧ next ≤ 0xBF)
    (hshorter : lead = 0xE0 → 0xA0 ≤ next) (hsurrogate : lead = 0xED → next ≤ 0x9F) :
    ∃ begun, first lead = ([], some begun) ∧ begun.value = lead - 0xE0 ∧ begun.further = 1 ∧
      begun.least ≤ next ∧ next ≤ begun.most := by
  rw [first, if_neg (by omega), if_neg (by omega), if_neg (by omega)]
  split_ifs with hfirst hlast
  · exact ⟨_, rfl, by simp [hfirst], rfl, hshorter hfirst, hnext.2⟩
  · exact ⟨_, rfl, by simp [hlast], rfl, hnext.1, hsurrogate hlast⟩
  · exact ⟨_, rfl, rfl, rfl, hnext⟩
  all_goals omega

/-- The range of the second byte leaves out what is written shorter and no character. -/
theorem first_of_four (h : 0xF0 ≤ lead ∧ lead ≤ 0xF4) (hnext : 0x80 ≤ next ∧ next ≤ 0xBF)
    (hshorter : lead = 0xF0 → 0x90 ≤ next) (hbehind : lead = 0xF4 → next ≤ 0x8F) :
    ∃ begun, first lead = ([], some begun) ∧ begun.value = lead - 0xF0 ∧ begun.further = 2 ∧
      begun.least ≤ next ∧ next ≤ begun.most := by
  rw [first, if_neg (by omega), if_neg (by omega), if_neg (by omega), if_neg (by omega),
    if_neg (by omega), if_neg (by omega)]
  split_ifs with hfirst hmiddle hlast
  · exact ⟨_, rfl, by simp [hfirst], rfl, hshorter hfirst, hnext.2⟩
  · exact ⟨_, rfl, rfl, rfl, hnext⟩
  · exact ⟨_, rfl, by simp [hlast], rfl, hnext.1, hbehind hlast⟩
  · omega

end Characters

section Reading

variable {byte : Nat} (hbyte : byte < 256) (rest : List UInt8)
include hbyte

theorem readFrom_first {read : List Char} {begun : Option Begun} (h : first byte = (read, begun)) :
    readFrom none (UInt8.ofNat byte :: rest) = read ++ readFrom begun rest := by
  rw [readFrom, UInt8.toNat_ofNat_of_lt' hbyte, step, h]

theorem readFrom_last {begun : Begun} (hlast : begun.further = 0)
    (h : begun.least ≤ byte ∧ byte ≤ begun.most) :
    readFrom (some begun) (UInt8.ofNat byte :: rest) =
      Char.ofNat (64 * begun.value + (byte - 0x80)) :: readFrom none rest := by
  rw [readFrom, UInt8.toNat_ofNat_of_lt' hbyte, step, Begun.next, if_pos h, hlast]
  rfl

theorem readFrom_further {begun : Begun} {further : Nat} (hfurther : begun.further = further + 1)
    (h : begun.least ≤ byte ∧ byte ≤ begun.most) :
    readFrom (some begun) (UInt8.ofNat byte :: rest) =
      readFrom (some ⟨64 * begun.value + (byte - 0x80), further, 0x80, 0xBF, by decide⟩) rest := by
  rw [readFrom, UInt8.toNat_ofNat_of_lt' hbyte, step, Begun.next, if_pos h, hfurther]
  rfl

end Reading

theorem readFrom_utf8EncodeChar (c : Char) (rest : List UInt8) :
    readFrom none (String.utf8EncodeChar c ++ rest) = c :: readFrom none rest := by
  have hvalid : c.toNat < 0xD800 ∨ 0xDFFF < c.toNat ∧ c.toNat < 0x110000 := c.valid
  have hback : Char.ofNat c.toNat = c := Char.ofNat_toNat c
  simp only [String.utf8EncodeChar, Char.toNat_val]
  generalize c.toNat = v at hvalid hback ⊢
  split_ifs with hone htwo hthree
  · rw [List.singleton_append, readFrom_first (by omega) _ (first_ascii (by omega)), hback]
    rfl
  · have hlead := first_of_two (v / 64 % 32 + 192) (by omega)
    simp only [List.cons_append, List.nil_append]
    rw [readFrom_first (by omega) _ hlead, List.nil_append,
      readFrom_last (by omega) _ rfl (by dsimp only; omega), ← hback]
    exact congrArg (Char.ofNat · :: readFrom none rest) (by dsimp only; omega)
  · obtain ⟨begun, hlead, hvalue, hfurther, hrange⟩ := first_of_three
      (v / 4096 % 16 + 224) (v / 64 % 64 + 128) (by omega) (by omega) (by omega)
      (by omega)
    simp only [List.cons_append, List.nil_append]
    rw [readFrom_first (by omega) _ hlead, List.nil_append,
      readFrom_further (by omega) _ hfurther hrange,
      readFrom_last (by omega) _ rfl (by dsimp only; omega), ← hback]
    exact congrArg (Char.ofNat · :: readFrom none rest) (by dsimp only; omega)
  · obtain ⟨begun, hlead, hvalue, hfurther, hrange⟩ := first_of_four
      (v / 262144 % 8 + 240) (v / 4096 % 64 + 128) (by omega) (by omega) (by omega) (by omega)
    simp only [List.cons_append, List.nil_append]
    rw [readFrom_first (by omega) _ hlead, List.nil_append,
      readFrom_further (by omega) _ hfurther hrange,
      readFrom_further (by omega) _ rfl (by dsimp only; omega),
      readFrom_last (by omega) _ rfl (by dsimp only; omega), ← hback]
    exact congrArg (Char.ofNat · :: readFrom none rest) (by dsimp only; omega)

theorem shown_encode (text : List Char) : shown (encode text) = text := by
  induction text with
  | nil => rfl
  | cons c text ih =>
      rw [encode, List.flatMap_cons, shown, readFrom_utf8EncodeChar]
      exact congrArg (c :: ·) ih

end TableLineage.Text.Utf8
