import TableLineage.Proofs.Text.Split

/-!
# Lines of a text that is put together of lines

`lines_joined`: whichever break stands between two lines, reading them back gives
the same lines, except that an empty line at the end is none.
-/

namespace TableLineage.Text

/-- A line that is read back as one line wherever it stands. -/
structure Unbroken (line : List Char) : Prop where
  no_lineFeed : '\n' ∉ line
  no_final_return : line.getLast? ≠ some '\r'

instance : DecidablePred Unbroken := fun line =>
  decidable_of_iff ('\n' ∉ line ∧ line.getLast? ≠ some '\r')
    ⟨fun h => ⟨h.1, h.2⟩, fun h => ⟨h.1, h.2⟩⟩

/-- Lines with a break between any two of them, which is a line feed or a carriage return and a
line feed. -/
inductive LinesJoined : List (List Char) → List Char → Prop
  | nil : LinesJoined [] []
  | single (line : List Char) : LinesJoined [line] line
  | lineFeed {line next : List Char} {rest : List (List Char)} {text : List Char} :
      LinesJoined (next :: rest) text → LinesJoined (line :: next :: rest) (line ++ '\n' :: text)
  | returned {line next : List Char} {rest : List (List Char)} {text : List Char} :
      LinesJoined (next :: rest) text →
        LinesJoined (line :: next :: rest) (line ++ '\r' :: '\n' :: text)

def dropFinalEmpty (found : List (List Char)) : List (List Char) :=
  if found.getLast? = some [] then found.dropLast else found

theorem dropFinalEmpty_cons_cons (line next : List Char) (rest : List (List Char)) :
    dropFinalEmpty (line :: next :: rest) = line :: dropFinalEmpty (next :: rest) := by
  rw [dropFinalEmpty, dropFinalEmpty, List.getLast?_cons_cons, List.dropLast_cons_cons]
  split <;> rfl

theorem dropFinalEmpty_cases (found : List (List Char)) :
    (dropFinalEmpty found = found ∧ found.getLast? ≠ some []) ∨
      found = dropFinalEmpty found ++ [[]] := by
  rw [dropFinalEmpty]
  split
  · next h => exact .inr (List.dropLast_append_getLast? _ h).symm
  · next h => exact .inl ⟨rfl, h⟩

theorem dropFinal_of_getLast? {c : Char} {text : List Char} (h : text.getLast? ≠ some c) :
    dropFinal c text = text := if_neg h

theorem dropFinal_append_singleton (c : Char) (text : List Char) :
    dropFinal c (text ++ [c]) = text := by
  rw [dropFinal, List.getLast?_concat, if_pos rfl, List.dropLast_concat]

theorem lines_of_no_lineFeed {text : List Char} (h : '\n' ∉ text) :
    lines text = if text.isEmpty then [] else [text] := by
  rw [lines, terminatedLines, split_of_not_mem h]
  rfl

theorem lines_append_lineFeed {line : List Char} (h : '\n' ∉ line) (text : List Char) :
    lines (line ++ '\n' :: text) = dropFinal '\r' line :: lines text := by
  obtain ⟨piece, pieces, hpieces⟩ := List.exists_cons_of_ne_nil (split_ne_nil '\n' text)
  rw [lines, lines, terminatedLines, terminatedLines, split_append_cons h, hpieces,
    List.dropLast_cons_cons]
  rfl

theorem lines_joined {found : List (List Char)} {text : List Char} (h : LinesJoined found text)
    (unbroken : ∀ line ∈ found, Unbroken line) : lines text = dropFinalEmpty found := by
  induction h with
  | nil => rfl
  | single line =>
      rw [lines_of_no_lineFeed (unbroken line List.mem_cons_self).no_lineFeed]
      cases line <;> rfl
  | @lineFeed line next rest text _ ih =>
      obtain ⟨hline, hrest⟩ := List.forall_mem_cons.mp unbroken
      rw [lines_append_lineFeed hline.no_lineFeed, ih hrest, dropFinalEmpty_cons_cons,
        dropFinal_of_getLast? hline.no_final_return]
  | @returned line next rest text _ ih =>
      obtain ⟨hline, hrest⟩ := List.forall_mem_cons.mp unbroken
      have hfree : '\n' ∉ line ++ ['\r'] := by
        rw [List.mem_append, not_or]
        exact ⟨hline.no_lineFeed, by decide⟩
      rw [← List.singleton_append, ← List.append_assoc, lines_append_lineFeed hfree, ih hrest,
        dropFinalEmpty_cons_cons, dropFinal_append_singleton]

end TableLineage.Text
