import TableLineage.Proofs.Formula.Step

/-!
# Lines are read as the grammar says

`tokenLine_eq_iff`: the reading of a text is the one line that the grammar
allows for it.  Everything else about lines is derived from the grammar, by
`step_induction` or by induction on `Lexes`; the budget of `readFrom` is met
only here.
-/

namespace TableLineage.Formula

open TableLineage.Text

theorem GapPiece.ne_nil {piece rest : List Char} (h : GapPiece piece rest) : piece ≠ [] := by
  cases h <;> simp

theorem Shape.ne_nil {kind : Kind} {word rest : List Char} (h : Shape kind word rest) :
    word ≠ [] := by
  cases h <;> simp

theorem length_lt_of_append {text taken left : List Char} (h : text = taken ++ left)
    (ne_nil : taken ≠ []) : left.length < text.length := by
  have hpos := List.length_pos_of_ne_nil ne_nil
  rw [h, List.length_append]
  omega

theorem length_lt_of_gap {c : Char} {rest piece left : List Char}
    (h : step c rest = .gap piece left) : left.length < (c :: rest).length := by
  obtain ⟨htext, hpiece⟩ := step_eq_iff.mp h
  exact length_lt_of_append htext hpiece.ne_nil

theorem length_lt_of_token {c : Char} {rest word left : List Char} {kind : Kind}
    (h : step c rest = .token kind word left) : left.length < (c :: rest).length := by
  obtain ⟨htext, hword⟩ := step_eq_iff.mp h
  exact length_lt_of_append htext hword.ne_nil

theorem readFrom_budget {budget : Nat} (budget' : Nat) {gap text : List Char}
    (h : text.length ≤ budget) (h' : text.length ≤ budget') :
    readFrom budget gap text = readFrom budget' gap text := by
  induction budget generalizing budget' gap text with
  | zero =>
      have hnil : text = [] := List.eq_nil_of_length_eq_zero (by omega)
      subst hnil
      cases budget' <;> rfl
  | succ budget ih =>
      cases text with
      | nil => cases budget' <;> rfl
      | cons c rest =>
          cases budget' with
          | zero => simp at h'
          | succ budget' =>
              rw [readFrom, readFrom]
              cases hstep : step c rest with
              | unclosed what => rfl
              | gap piece left =>
                  have hleft := length_lt_of_gap hstep
                  exact ih budget' (by omega) (by omega)
              | token kind word left =>
                  have hleft := length_lt_of_token hstep
                  simp only
                  rw [ih budget' (by omega) (by omega)]

/-- Puts a gap in front of the first token, or in front of the last gap where there is none. -/
def TokenLine.widen (gap : List Char) : TokenLine → TokenLine
  | ⟨token :: tokens, ending⟩ => ⟨{ token with gap := gap ++ token.gap } :: tokens, ending⟩
  | ⟨[], .complete final⟩ => ⟨[], .complete (gap ++ final)⟩
  | ⟨[], .unclosed what before tail⟩ => ⟨[], .unclosed what (gap ++ before) tail⟩

@[simp] theorem TokenLine.widen_nil (line : TokenLine) : line.widen [] = line := by
  rcases line with ⟨_ | ⟨token, tokens⟩, _ | _⟩ <;> rfl

theorem TokenLine.widen_widen (first second : List Char) (line : TokenLine) :
    (line.widen second).widen first = line.widen (first ++ second) := by
  rcases line with ⟨_ | ⟨token, tokens⟩, _ | _⟩ <;> simp [widen]

theorem readFrom_widen (budget : Nat) (gap text : List Char) :
    readFrom budget gap text = (readFrom budget [] text).widen gap := by
  induction budget generalizing gap text with
  | zero => cases text <;> simp [readFrom, TokenLine.widen]
  | succ budget ih =>
      cases text with
      | nil => simp [readFrom, TokenLine.widen]
      | cons c rest =>
          rw [readFrom, readFrom]
          cases step c rest with
          | unclosed what => simp [TokenLine.widen]
          | gap piece left =>
              simp only [List.nil_append]
              rw [ih, ih piece, TokenLine.widen_widen]
          | token kind word left => simp [TokenLine.widen]

@[simp] theorem tokenLine_nil : tokenLine [] = ⟨[], .complete []⟩ := rfl

theorem tokenLine_of_gap {c : Char} {rest piece left : List Char}
    (h : step c rest = .gap piece left) :
    tokenLine (c :: rest) = (tokenLine left).widen piece := by
  have hleft := length_lt_of_gap h
  rw [tokenLine, List.length_cons, readFrom, h]
  simp only [List.nil_append, List.length_cons] at hleft ⊢
  rw [readFrom_widen, readFrom_budget left.length (by omega) le_rfl]
  rfl

theorem tokenLine_of_token {c : Char} {rest word left : List Char} {kind : Kind}
    (h : step c rest = .token kind word left) :
    tokenLine (c :: rest) = (tokenLine left).push ⟨kind, [], word⟩ := by
  have hleft := length_lt_of_token h
  rw [tokenLine, List.length_cons, readFrom, h]
  simp only [List.length_cons] at hleft ⊢
  rw [readFrom_budget left.length (by omega) le_rfl]
  rfl

theorem tokenLine_of_unclosed {c : Char} {rest : List Char} {what : Unclosed}
    (h : step c rest = .unclosed what) :
    tokenLine (c :: rest) = ⟨[], .unclosed what [] (c :: rest)⟩ := by
  rw [tokenLine, List.length_cons, readFrom, h]

/-- What holds at the end of a text and in front of every step holds of every text. -/
theorem step_induction {p : List Char → Prop} (nil : p [])
    (gap : ∀ piece left, GapPiece piece left → p left → p (piece ++ left))
    (token : ∀ kind word left, Shape kind word left → p left → p (word ++ left))
    (unclosed : ∀ what tail, Open what tail → p tail) (text : List Char) : p text := by
  induction hlength : text.length using Nat.strong_induction_on generalizing text with
  | _ length ih =>
      subst hlength
      cases text with
      | nil => exact nil
      | cons c rest =>
          cases hstep : step c rest with
          | unclosed what => exact unclosed what _ (step_eq_iff.mp hstep)
          | gap piece left =>
              obtain ⟨htext, hpiece⟩ := step_eq_iff.mp hstep
              rw [htext]
              exact gap piece left hpiece (ih _ (length_lt_of_gap hstep) left rfl)
          | token kind word left =>
              obtain ⟨htext, hword⟩ := step_eq_iff.mp hstep
              rw [htext]
              exact token kind word left hword (ih _ (length_lt_of_token hstep) left rfl)

theorem tokenLine_gapPiece {piece rest : List Char} (h : GapPiece piece rest) :
    tokenLine (piece ++ rest) = (tokenLine rest).widen piece := by
  obtain ⟨c, tail, rfl⟩ := List.exists_cons_of_ne_nil h.ne_nil
  exact tokenLine_of_gap (step_gap rfl h)

theorem tokenLine_gap {gap rest : List Char} (h : Gap gap rest) :
    tokenLine (gap ++ rest) = (tokenLine rest).widen gap := by
  induction h with
  | nil => simp
  | cons hpiece _ ih => rw [List.append_assoc, tokenLine_gapPiece hpiece, ih,
      TokenLine.widen_widen]

theorem tokenLine_shape {kind : Kind} {word rest : List Char} (h : Shape kind word rest) :
    tokenLine (word ++ rest) = (tokenLine rest).push ⟨kind, [], word⟩ := by
  obtain ⟨c, tail, rfl⟩ := List.exists_cons_of_ne_nil h.ne_nil
  exact tokenLine_of_token (step_token rfl h)

theorem tokenLine_open {what : Unclosed} {text : List Char} (h : Open what text) :
    tokenLine text = ⟨[], .unclosed what [] text⟩ := by
  obtain ⟨c, tail, rfl⟩ : ∃ c tail, text = c :: tail := by
    cases h <;> exact ⟨_, _, rfl⟩
  exact tokenLine_of_unclosed (step_unclosed h)

theorem Lexes.widen {piece text : List Char} {line : TokenLine} (h : Lexes text line)
    (hpiece : GapPiece piece text) : Lexes (piece ++ text) (line.widen piece) := by
  cases h with
  | complete hgap => exact .complete (.cons (by simpa using hpiece) hgap)
  | unclosed hgap hopen =>
      rw [← List.append_assoc]
      exact .unclosed (.cons hpiece hgap) hopen
  | @token token rest line hgap hshape hrest =>
      have hgap' : Gap (piece ++ token.gap) (token.text ++ rest) :=
        .cons (by simpa [Token.written] using hpiece) hgap
      simpa [Token.written, TokenLine.widen, TokenLine.push] using
        @Lexes.token { token with gap := piece ++ token.gap } _ _ hgap' hshape hrest

theorem lexes_tokenLine (text : List Char) : Lexes text (tokenLine text) := by
  induction text using step_induction with
  | nil => exact .complete .nil
  | gap piece left hpiece ih =>
      rw [tokenLine_gapPiece hpiece]
      exact ih.widen hpiece
  | token kind word left hword ih =>
      rw [tokenLine_shape hword]
      exact @Lexes.token ⟨kind, [], word⟩ _ _ .nil hword ih
  | unclosed what tail hopen =>
      rw [tokenLine_open hopen]
      exact @Lexes.unclosed _ [] _ .nil hopen

theorem tokenLine_of_lexes {text : List Char} {line : TokenLine} (h : Lexes text line) :
    tokenLine text = line := by
  induction h with
  | complete hgap => simpa [TokenLine.widen] using tokenLine_gap hgap
  | unclosed hgap hopen => simp [tokenLine_gap hgap, tokenLine_open hopen, TokenLine.widen]
  | token hgap hshape _ ih =>
      rw [Token.written, List.append_assoc, tokenLine_gap hgap, tokenLine_shape hshape, ih]
      simp [TokenLine.widen, TokenLine.push]

theorem tokenLine_eq_iff {text : List Char} {line : TokenLine} :
    tokenLine text = line ↔ Lexes text line :=
  ⟨fun h => h ▸ lexes_tokenLine text, tokenLine_of_lexes⟩

theorem Lexes.written {text : List Char} {line : TokenLine} (h : Lexes text line) :
    line.written = text := by
  induction h with
  | complete => rfl
  | unclosed => rfl
  | token _ _ _ ih => simpa [TokenLine.written, TokenLine.push] using ih

/-- Tokens and gaps in their order give back the text, whether it is complete or not. -/
@[simp] theorem tokenLine_written (text : List Char) : (tokenLine text).written = text :=
  (lexes_tokenLine text).written

theorem Lexes.exists_shape {text : List Char} {line : TokenLine} (h : Lexes text line)
    {token : Token} (mem : token ∈ line.tokens) : ∃ rest, Shape token.kind token.text rest := by
  induction h with
  | complete => simp at mem
  | unclosed => simp at mem
  | @token _ rest _ _ hshape _ ih =>
      rcases List.mem_cons.mp mem with rfl | mem
      · exact ⟨rest, hshape⟩
      · exact ih mem

/-! ## Complete texts -/

def Complete (text : List Char) : Prop := ∃ final, (tokenLine text).ending = .complete final

theorem Complete.gapPiece {piece rest : List Char} (h : Complete rest)
    (hpiece : GapPiece piece rest) : Complete (piece ++ rest) := by
  obtain ⟨final, hending⟩ := h
  rw [Complete, tokenLine_gapPiece hpiece]
  generalize tokenLine rest = line at hending
  obtain ⟨_ | ⟨token, tokens⟩, ending⟩ := line
  · cases hending
    exact ⟨piece ++ final, rfl⟩
  · exact ⟨final, hending⟩

theorem Complete.shape {kind : Kind} {word rest : List Char} (h : Complete rest)
    (hshape : Shape kind word rest) : Complete (word ++ rest) := by
  obtain ⟨final, hending⟩ := h
  rw [Complete, tokenLine_shape hshape]
  exact ⟨final, hending⟩

theorem complete_of_unquoted {text : List Char} (hquote : '"' ∉ text)
    (hcomment : ¬ ['/', '*'] <:+: text) : Complete text := by
  induction text using step_induction with
  | nil => exact ⟨[], rfl⟩
  | gap piece left hpiece ih =>
      have hleft := ih (mt (List.mem_append_right _) hquote)
        (mt List.infix_append_of_infix_right hcomment)
      exact hleft.gapPiece hpiece
  | token kind word left hword ih =>
      have hleft := ih (mt (List.mem_append_right _) hquote)
        (mt List.infix_append_of_infix_right hcomment)
      exact hleft.shape hword
  | unclosed what tail hopen =>
      cases hopen with
      | string _ => simp at hquote
      | quotedIdentifier _ => simp at hquote
      | @comment body _ => exact absurd ⟨[], body, rfl⟩ hcomment

end TableLineage.Formula
