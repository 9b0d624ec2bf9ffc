import TableLineage.Text.Utf8

/-!
# Slices by byte offsets

A slice is named by the byte offsets of its ends.  There is none if the ends
are out of order, lie behind the text, or fall inside a character.
-/

namespace TableLineage.Text

def dropBytes? (size : Nat) (text : List Char) : Option (List Char) :=
  if size = 0 then some text
  else
    match text with
    | [] => none
    | c :: rest => if c.utf8Size ≤ size then dropBytes? (size - c.utf8Size) rest else none

def takeBytes? (size : Nat) (text : List Char) : Option (List Char) :=
  if size = 0 then some []
  else
    match text with
    | [] => none
    | c :: rest =>
        if c.utf8Size ≤ size then (takeBytes? (size - c.utf8Size) rest).map (c :: ·) else none

def slice? (text : List Char) (start stop : Nat) : Option (List Char) :=
  if start ≤ stop then (dropBytes? start text).bind (takeBytes? (stop - start)) else none

theorem byteSize_eq_zero_iff {text : List Char} : byteSize text = 0 ↔ text = [] := by
  cases text with
  | nil => simp
  | cons c rest =>
      have hpos := c.utf8Size_pos
      simp
      omega

theorem byteSize_pos {text : List Char} (h : text ≠ []) : 0 < byteSize text :=
  Nat.pos_of_ne_zero (mt byteSize_eq_zero_iff.mp h)

theorem dropBytes?_eq_some_iff {size : Nat} {text rest : List Char} :
    dropBytes? size text = some rest ↔
      ∃ before, text = before ++ rest ∧ byteSize before = size := by
  constructor
  · intro h
    fun_induction dropBytes? size text with
    | case1 text => exact ⟨[], by simpa using h, rfl⟩
    | case2 => simp at h
    | case3 size _ c tail hfit ih =>
        obtain ⟨before, rfl, hsize⟩ := ih h
        refine ⟨c :: before, rfl, ?_⟩
        rw [byteSize_cons]
        omega
    | case4 => simp at h
  · rintro ⟨before, rfl, rfl⟩
    induction before with
    | nil =>
        unfold dropBytes?
        simp
    | cons c before ih =>
        have hpos := c.utf8Size_pos
        rw [List.cons_append, dropBytes?, byteSize_cons, if_neg (by omega)]
        simpa using ih

theorem takeBytes?_eq_some_iff {size : Nat} {text piece : List Char} :
    takeBytes? size text = some piece ↔
      ∃ rest, text = piece ++ rest ∧ byteSize piece = size := by
  constructor
  · intro h
    fun_induction takeBytes? size text generalizing piece with
    | case1 text =>
        cases h
        exact ⟨text, rfl, rfl⟩
    | case2 => simp at h
    | case3 size _ c tail hfit ih =>
        obtain ⟨piece, hpiece, rfl⟩ := Option.map_eq_some_iff.mp h
        obtain ⟨rest, rfl, hsize⟩ := ih hpiece
        refine ⟨rest, rfl, ?_⟩
        rw [byteSize_cons]
        omega
    | case4 => simp at h
  · rintro ⟨rest, rfl, rfl⟩
    induction piece with
    | nil =>
        unfold takeBytes?
        simp
    | cons c piece ih =>
        have hpos := c.utf8Size_pos
        rw [List.cons_append, takeBytes?, byteSize_cons, if_neg (by omega)]
        simpa using ih

theorem slice?_eq_some_iff {text piece : List Char} {start stop : Nat} :
    slice? text start stop = some piece ↔
      ∃ before after, text = before ++ piece ++ after ∧ byteSize before = start ∧
        start + byteSize piece = stop := by
  constructor
  · intro h
    unfold slice? at h
    split at h
    · next hle =>
        obtain ⟨tail, hdrop, htake⟩ := Option.bind_eq_some_iff.mp h
        obtain ⟨before, rfl, hbefore⟩ := dropBytes?_eq_some_iff.mp hdrop
        obtain ⟨after, rfl, hpiece⟩ := takeBytes?_eq_some_iff.mp htake
        exact ⟨before, after, by simp, hbefore, by omega⟩
    · simp at h
  · rintro ⟨before, after, rfl, rfl, rfl⟩
    rw [slice?, if_pos (by omega), List.append_assoc,
      dropBytes?_eq_some_iff.mpr ⟨before, rfl, rfl⟩, Option.bind_some,
      takeBytes?_eq_some_iff]
    exact ⟨after, rfl, by omega⟩

end TableLineage.Text
