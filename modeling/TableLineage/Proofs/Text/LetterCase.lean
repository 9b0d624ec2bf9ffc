import Mathlib.Data.List.Basic
import TableLineage.Text.LetterCase

/-!
# Lower case of ASCII texts

The full lower-casing of a text of ASCII characters goes letter by letter.
-/

namespace TableLineage.Text

theorem isAscii_of_lowerAsciiChar {c : Char} (h : isAscii (lowerAsciiChar c) = true) :
    isAscii c = true := by
  unfold lowerAsciiChar at h
  split at h
  · next hupper =>
      simp only [Bool.and_eq_true, decide_eq_true_eq, Char.le_def, UInt32.le_iff_toNat_le]
        at hupper
      have hbound : c.toNat ≤ 90 := hupper.2
      simp [isAscii]
      omega
  · exact h

theorem lowerFrom_of_ascii {text : List Char} (h : ∀ c ∈ text, isAscii c = true)
    (before : List Char) : lowerFrom before text = text.map lowerAsciiChar := by
  induction text generalizing before with
  | nil => rfl
  | cons c text ih =>
      obtain ⟨hc, htext⟩ := List.forall_mem_cons.mp h
      have hsigma : c ≠ 'Σ' := by
        rintro rfl
        exact absurd hc (by decide)
      rw [lowerFrom, if_neg hsigma, ih htext, lowerChar, if_pos hc]
      rfl

theorem lowercase_of_ascii {text : List Char} (h : ∀ c ∈ text, isAscii c = true) :
    lowercase text = text.map lowerAsciiChar :=
  lowerFrom_of_ascii h []

/-- A text that is spelled with the letters of an ASCII word has the word as its lower case. -/
theorem lowercase_of_map {text word : List Char} (h : text.map lowerAsciiChar = word)
    (ascii : word.all isAscii = true) : lowercase text = word := by
  rw [lowercase_of_ascii, h]
  intro c hc
  apply isAscii_of_lowerAsciiChar
  apply List.all_eq_true.mp ascii
  rw [← h]
  exact List.mem_map_of_mem hc

end TableLineage.Text
