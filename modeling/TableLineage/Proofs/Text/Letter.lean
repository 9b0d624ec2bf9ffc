import TableLineage.Proofs.Text.Blank
import TableLineage.Text.Letter

/-!
# Character classes exclude each other

Digits are no letters, and no blank is part of a name.  Below 128 this is a
matter of comparison; above, the few blanks are looked up in the tables.
-/

namespace TableLineage.Text

theorem isLetter_of_isAsciiDigit {c : Char} (h : isAsciiDigit c = true) : isLetter c = false := by
  simp only [isAsciiDigit, Bool.and_eq_true, decide_eq_true_eq, Char.le_def,
    UInt32.le_iff_toNat_le] at h
  have hbounds : 48 ≤ c.toNat ∧ c.toNat ≤ 57 := h
  simp only [isLetter, isAscii, isAsciiLetter, Char.le_def, UInt32.le_iff_toNat_le]
  rw [if_pos (by simp; omega)]
  change ((decide (97 ≤ c.toNat) && decide (c.toNat ≤ 122)) ||
    (decide (65 ≤ c.toNat) && decide (c.toNat ≤ 90))) = false
  simp
  omega

-- An array is indexed anew for each of its ranges when it is evaluated; a list is not.
theorem Ranges.holds_eq_toList_any (ranges : Ranges) (code : Nat) :
    ranges.holds code =
      ranges.toList.any (fun range => range.1 ≤ code && code ≤ range.2) := by
  rw [Ranges.holds, Array.any_toList]

theorem isLetterOrNumeric_of_isBlank {c : Char} (h : isBlank c = true) :
    isLetterOrNumeric c = false := by
  have htables : ∀ code ∈ blankCodes,
      letterRanges.toList.any (fun range => range.1 ≤ code && code ≤ range.2) = false ∧
        numericRanges.toList.any (fun range => range.1 ≤ code && code ≤ range.2) = false := by
    decide +kernel
  have hascii : ∀ code ∈ blankCodes,
      isAsciiLetter (Char.ofNat code) = false ∧ isAsciiDigit (Char.ofNat code) = false := by
    decide +kernel
  obtain ⟨hletters, hnumbers⟩ := htables _ (toNat_mem_blankCodes h)
  obtain ⟨hletter, hdigit⟩ := forall_blank
    (p := fun c => isAsciiLetter c = false ∧ isAsciiDigit c = false) hascii h
  rw [isLetterOrNumeric, isLetter, isNumeric, Ranges.holds_eq_toList_any,
    Ranges.holds_eq_toList_any, hletters, hnumbers, hletter, hdigit]
  simp

theorem isLetter_of_isBlank {c : Char} (h : isBlank c = true) : isLetter c = false := by
  have hclass := isLetterOrNumeric_of_isBlank h
  rw [isLetterOrNumeric, Bool.or_eq_false_iff] at hclass
  exact hclass.1

theorem isAsciiDigit_of_isBlank {c : Char} (h : isBlank c = true) : isAsciiDigit c = false :=
  forall_blank (p := fun c => isAsciiDigit c = false) (by decide) h

end TableLineage.Text
