import Mathlib.Data.List.Basic
import TableLineage.Text.Split

/-!
# Splitting once and everywhere

`splitOnce` cuts at the first separator and succeeds if there is one.  `split`
is the split of the list library, which cuts at all of them.
-/

namespace TableLineage.Text

theorem splitOnce_eq_none_iff {separator : Char} {text : List Char} :
    splitOnce separator text = none ↔ separator ∉ text := by
  induction text with
  | nil => simp [splitOnce]
  | cons c rest ih =>
      by_cases hc : c = separator
      · simp [splitOnce, hc]
      · simp [splitOnce, hc, ih, Ne.symm hc]

theorem splitOnce_eq_some_iff {separator : Char} {text before after : List Char} :
    splitOnce separator text = some (before, after) ↔
      text = before ++ separator :: after ∧ separator ∉ before := by
  constructor
  · intro h
    induction text generalizing before with
    | nil => simp [splitOnce] at h
    | cons c rest ih =>
        rw [splitOnce] at h
        split at h
        · next hc =>
            cases h
            exact ⟨by rw [hc]; rfl, List.not_mem_nil⟩
        · next hc =>
            obtain ⟨⟨before', after'⟩, hsplit, heq⟩ := Option.map_eq_some_iff.mp h
            cases heq
            obtain ⟨rfl, hbefore⟩ := ih hsplit
            exact ⟨rfl, List.not_mem_cons_of_ne_of_not_mem (Ne.symm hc) hbefore⟩
  · rintro ⟨rfl, hbefore⟩
    induction before with
    | nil => simp [splitOnce]
    | cons c before ih =>
        have hc : c ≠ separator := (List.ne_of_not_mem_cons hbefore).symm
        rw [List.cons_append, splitOnce, if_neg hc, ih (List.not_mem_of_not_mem_cons hbefore)]
        rfl

theorem split_eq_splitOn (separator : Char) (text : List Char) :
    split separator text = text.splitOn separator := by
  induction text with
  | nil => rfl
  | cons c rest ih =>
      obtain ⟨piece, pieces, hpieces⟩ :=
        List.exists_cons_of_ne_nil (split_ne_nil separator rest)
      rw [List.splitOn_cons_eq_if_modifyHead, ← ih, split, hpieces]
      by_cases hc : c = separator
      · simp [hc]
      · simp [hc, extendFirst]

theorem split_of_not_mem {separator : Char} {text : List Char} (h : separator ∉ text) :
    split separator text = [text] := by
  rw [split_eq_splitOn, List.splitOn_eq_singleton h]

theorem split_append_cons {separator : Char} {before : List Char} (h : separator ∉ before)
    (after : List Char) :
    split separator (before ++ separator :: after) = before :: split separator after := by
  rw [split_eq_splitOn, split_eq_splitOn, List.splitOn_append_cons_self_of_not_mem h]

end TableLineage.Text
