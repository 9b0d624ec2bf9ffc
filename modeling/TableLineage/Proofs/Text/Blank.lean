import Mathlib.Data.List.Basic
import TableLineage.Text.Blank

/-!
# Trimming removes blanks and no more

A text is its trimmed form between two runs of blanks, and a form that neither
begins nor ends with a blank is what trimming leaves of it between such runs.
The blanks themselves are finitely many.
-/

namespace TableLineage.Text

def blankCodes : List Nat :=
  List.range' 9 5 ++ [32, 133, 160, 5760] ++ List.range' 8192 11 ++
    [8232, 8233, 8239, 8287, 12288]

theorem toNat_mem_blankCodes {c : Char} (h : isBlank c = true) : c.toNat ∈ blankCodes := by
  simp only [isBlank, Bool.or_eq_true, Bool.and_eq_true, decide_eq_true_eq, beq_iff_eq] at h
  simp only [blankCodes, List.mem_append, List.mem_range'_1, List.mem_cons, List.not_mem_nil,
    or_false]
  omega

/-- What holds of every blank can be checked one blank after the other. -/
theorem forall_blank {p : Char → Prop} (h : ∀ code ∈ blankCodes, p (Char.ofNat code))
    {c : Char} (blank : isBlank c = true) : p c := by
  simpa using h _ (toNat_mem_blankCodes blank)

def AllBlank (text : List Char) : Prop := ∀ c ∈ text, isBlank c = true

instance : DecidablePred AllBlank := fun text => List.decidableBAll _ text

theorem AllBlank.nil : AllBlank [] := List.forall_mem_nil _

theorem AllBlank.append {front back : List Char} (hfront : AllBlank front) (hback : AllBlank back) :
    AllBlank (front ++ back) :=
  List.forall_mem_append.mpr ⟨hfront, hback⟩

theorem AllBlank.not_mem {text : List Char} (h : AllBlank text) {c : Char}
    (hc : isBlank c = false) : c ∉ text := by
  intro hmem
  simp [h c hmem] at hc

theorem takeWhile_allBlank (text : List Char) : AllBlank (text.takeWhile isBlank) := by
  intro c hc
  exact List.all_eq_true.mp List.all_takeWhile c hc

theorem exists_blanks_trimEnd (text : List Char) :
    ∃ back, text = trimEnd text ++ back ∧ AllBlank back := by
  refine ⟨(text.reverse.takeWhile isBlank).reverse, ?_, ?_⟩
  · rw [trimEnd, dropWhileEnd, ← List.reverse_append, List.takeWhile_append_dropWhile,
      List.reverse_reverse]
  · intro c hc
    exact takeWhile_allBlank _ c (List.mem_reverse.mp hc)

theorem exists_blanks_trim (text : List Char) :
    ∃ front back, text = front ++ trim text ++ back ∧ AllBlank front ∧ AllBlank back := by
  have hstart : text = text.takeWhile isBlank ++ trimStart text :=
    List.takeWhile_append_dropWhile.symm
  obtain ⟨back, hend, hback⟩ := exists_blanks_trimEnd (trimStart text)
  refine ⟨text.takeWhile isBlank, back, ?_, takeWhile_allBlank text, hback⟩
  rw [List.append_assoc, trim, ← hend, ← hstart]

theorem trimStart_append {front text : List Char} (hfront : AllBlank front)
    (hhead : ∀ c ∈ text.head?, isBlank c = false) : trimStart (front ++ text) = text := by
  rw [trimStart, List.dropWhile_append_of_pos hfront]
  cases text with
  | nil => rfl
  | cons c text => simp [hhead c rfl]

theorem trimEnd_append {text back : List Char} (hback : AllBlank back)
    (hlast : ∀ c ∈ text.getLast?, isBlank c = false) : trimEnd (text ++ back) = text := by
  have hback' : AllBlank back.reverse := fun c hc => hback c (List.mem_reverse.mp hc)
  have hhead : ∀ c ∈ text.reverse.head?, isBlank c = false := by simpa using hlast
  have hstart := trimStart_append hback' hhead
  rw [trimEnd, dropWhileEnd, List.reverse_append]
  rw [trimStart] at hstart
  rw [hstart, List.reverse_reverse]

theorem trim_append {front text back : List Char} (hfront : AllBlank front)
    (hback : AllBlank back) (hhead : ∀ c ∈ text.head?, isBlank c = false)
    (hlast : ∀ c ∈ text.getLast?, isBlank c = false) :
    trim (front ++ (text ++ back)) = text := by
  cases text with
  | nil =>
      have hstart : trimStart (front ++ back ++ []) = [] :=
        trimStart_append (hfront.append hback) (by simp)
      rw [List.append_nil] at hstart
      rw [trim, List.nil_append, hstart]
      rfl
  | cons c text =>
      have hstart : trimStart (front ++ (c :: text ++ back)) = c :: text ++ back :=
        trimStart_append hfront hhead
      rw [trim, hstart]
      exact trimEnd_append hback hlast

theorem getLast?_trim (text : List Char) : ∀ c ∈ (trim text).getLast?, isBlank c = false := by
  intro c hc
  rw [trim, trimEnd, dropWhileEnd, List.getLast?_reverse] at hc
  have hhead := List.head?_dropWhile_not isBlank (trimStart text).reverse
  rw [Option.mem_def.mp hc] at hhead
  simpa using hhead

theorem head?_trim (text : List Char) : ∀ c ∈ (trim text).head?, isBlank c = false := by
  intro c hc
  obtain ⟨back, hend, -⟩ := exists_blanks_trimEnd (trimStart text)
  obtain ⟨rest, hrest⟩ := List.head?_eq_some_iff.mp (Option.mem_def.mp hc)
  have hhead := List.head?_dropWhile_not isBlank text
  rw [trim] at hrest
  rw [← trimStart, hend, hrest] at hhead
  simpa using hhead

/-- A text that is trimmed already is what trimming leaves of it between blanks. -/
theorem trim_framed {front text back : List Char} (hfront : AllBlank front)
    (hback : AllBlank back) (h : trim text = text) : trim (front ++ (text ++ back)) = text := by
  have hhead := head?_trim text
  have hlast := getLast?_trim text
  rw [h] at hhead hlast
  exact trim_append hfront hback hhead hlast

theorem trim_eq_nil_iff {text : List Char} : trim text = [] ↔ AllBlank text := by
  constructor
  · intro h
    obtain ⟨front, back, htext, hfront, hback⟩ := exists_blanks_trim text
    rw [h, List.append_nil] at htext
    exact htext ▸ hfront.append hback
  · intro h
    have htrim : trim (text ++ ([] ++ [])) = [] :=
      trim_append h AllBlank.nil (by simp) (by simp)
    simpa using htrim

end TableLineage.Text
