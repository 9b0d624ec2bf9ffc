import TableLineage.Formula.QueryText
import TableLineage.Proofs.Formula.Fence
import TableLineage.Proofs.Text.Blank

/-!
# Literals as arguments

A literal is one argument whatever stands in it, as long as the text behind it
is complete.  Literals in which all quotes are doubled include every text
without quotes and every query that was encoded.
-/

namespace TableLineage.Formula

open TableLineage.Text

theorem doubled_append {block text : List Char} (hblock : Doubled block) (h : Doubled text) :
    Doubled (block ++ text) := by
  induction hblock with
  | nil => exact h
  | plain hc _ ih => exact .plain hc ih
  | pair _ ih => exact .pair ih

theorem doubled_of_not_mem {text : List Char} (h : '"' ∉ text) : Doubled text := by
  induction text with
  | nil => exact .nil
  | cons c text ih =>
      obtain ⟨hc, htext⟩ := not_or.mp (mt List.mem_cons.mpr h)
      exact .plain (Ne.symm hc) (ih htext)

theorem doubled_encodeQuery (query : List Char) : Doubled (encodeQuery query) := by
  induction query with
  | nil => exact .nil
  | cons c query ih =>
      have hblock : Doubled (encodeChar c) := by
        unfold encodeChar
        split
        · exact .pair .nil
        · next hquote =>
            apply doubled_of_not_mem
            split
            · decide
            · split
              · decide
              · simpa using Ne.symm hquote
      exact doubled_append hblock ih

theorem shape_enquote {body rest : List Char} (hbody : Doubled body)
    (hclosed : rest.head? ≠ some '"') : Shape .string (enquote body) rest :=
  .string hbody hclosed

theorem lexes_enquote {gap body rest : List Char} (hgap : Gap gap (enquote body ++ rest))
    (hbody : Doubled body) :
    Lexes (gap ++ enquote body) ⟨[⟨.string, gap, enquote body⟩], .complete []⟩ := by
  have hgap' : Gap gap (enquote body ++ []) := hgap.of_head? fun c hc => mem_head?_append hc
  have hlexes := @Lexes.token ⟨.string, gap, enquote body⟩ [] _ hgap'
    (shape_enquote hbody (by simp)) (.complete .nil)
  rwa [List.append_nil] at hlexes

section Separators

variable {gap body after : List Char} (hbody : Doubled body) (hafter : Complete after)

include hbody hafter

theorem splitArguments_enquote (hgap : Gap gap (enquote body ++ ',' :: after)) :
    splitArguments (gap ++ (enquote body ++ ',' :: after)) =
      (splitArguments after).push (gap ++ enquote body) := by
  rw [← List.append_assoc]
  exact splitArguments_comma (lexes_enquote hgap hbody) (by simp; decide) .nil hafter

theorem splitArguments_enquote_paren (hgap : Gap gap (enquote body ++ ')' :: after)) :
    splitArguments (gap ++ (enquote body ++ ')' :: after)) =
      ⟨gap ++ enquote body, [], ')' :: after⟩ := by
  rw [← List.append_assoc]
  exact splitArguments_paren (lexes_enquote hgap hbody) (by simp; decide) .nil hafter

end Separators

theorem gap_space (rest : List Char) : Gap [' '] rest :=
  @Gap.cons [' '] [] _ (.blank (by decide)) .nil

section Pairs

variable {first second rest : List Char} {c : Char} {kind : Kind} (hsecond : '"' ∉ second)
  (hshape : Shape kind [c] rest) (hc : c ≠ '"') (hrest : Complete rest)

include hsecond hshape hc hrest

theorem complete_second : Complete ([' '] ++ (enquote second ++ c :: rest)) := by
  have hseparator : Complete ([c] ++ rest) := hrest.shape hshape
  have hclosed : ([c] ++ rest).head? ≠ some '"' := by simpa using hc
  have hliteral := hseparator.shape (shape_enquote (doubled_of_not_mem hsecond) hclosed)
  exact hliteral.gapPiece (.blank (by decide))

/-- The first of two literals is cut off, whatever separates the second from the rest. -/
theorem splitArguments_first (hfirst : '"' ∉ first) :
    splitArguments (enquote first ++ ',' :: ([' '] ++ (enquote second ++ c :: rest))) =
      (splitArguments ([' '] ++ (enquote second ++ c :: rest))).push (enquote first) :=
  @splitArguments_enquote [] first _ (doubled_of_not_mem hfirst)
    (complete_second hsecond hshape hc hrest) .nil

end Pairs

@[simp] theorem head?_enquote (text : List Char) : (enquote text).head? = some '"' := rfl

@[simp] theorem getLast?_enquote (text : List Char) : (enquote text).getLast? = some '"' := by
  rw [enquote, ← List.cons_append, List.getLast?_concat]

theorem trim_enquote {front : List Char} (hfront : AllBlank front) (text : List Char) :
    trim (front ++ enquote text) = enquote text := by
  have hquote : isBlank '"' = false := by decide
  have htrim := @trim_append front (enquote text) [] hfront (by simp [AllBlank])
    (by simp [hquote]) (by simp [hquote])
  rwa [List.append_nil] at htrim

end TableLineage.Formula
