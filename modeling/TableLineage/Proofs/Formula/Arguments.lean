import Mathlib.Data.List.Forall2
import TableLineage.Formula.Span
import TableLineage.Proofs.Formula.Lexing
import TableLineage.Text.Slice

/-!
# Arguments and their spans

Splitting loses nothing: arguments, separators and the rest give back the
text.  `tokenSpans_locateFrom` and `plainSpans_eq` compare the two splitters
with the offsets at which they cut.
-/

namespace TableLineage.Formula

open TableLineage.Text

namespace Arguments

@[simp] theorem written_extend (text : List Char) (arguments : Arguments) :
    (arguments.extend text).written = text ++ arguments.written := by
  simp [extend, written]

@[simp] theorem written_push (argument : List Char) (arguments : Arguments) :
    (arguments.push argument).written = argument ++ ',' :: arguments.written := by
  simp [push, written, all]

@[simp] theorem rest_extend (text : List Char) (arguments : Arguments) :
    (arguments.extend text).rest = arguments.rest := rfl

@[simp] theorem rest_push (argument : List Char) (arguments : Arguments) :
    (arguments.push argument).rest = arguments.rest := rfl

@[simp] theorem extend_extend (first second : List Char) (arguments : Arguments) :
    (arguments.extend second).extend first = arguments.extend (first ++ second) := by
  simp [extend]

@[simp] theorem extend_nil (arguments : Arguments) : arguments.extend [] = arguments := rfl

@[simp] theorem all_push_extend (text argument : List Char) (arguments : Arguments) :
    ((arguments.push argument).extend text).all = (text ++ argument) :: arguments.all := rfl

theorem written_eq_intercalate (arguments : Arguments) :
    arguments.written = [','].intercalate arguments.all ++ arguments.rest := by
  obtain ⟨first, others, rest⟩ := arguments
  simp only [written, all, List.append_cancel_right_eq]
  induction others generalizing first with
  | nil => simp [List.intercalate]
  | cons second others ih =>
      rw [List.flatMap_cons, List.cons_append, ih second, List.intercalate_cons_cons]
      simp

end Arguments

section SplitTokens

variable {token : Token} (final : List Char) (inner : Nat) (tokens : List Token)

theorem splitTokens_opens (h : token.kind.opens = true) :
    splitTokens final inner (token :: tokens) =
      (splitTokens final (inner + 1) tokens).extend token.written := by
  rw [splitTokens.eq_def final inner]
  dsimp only
  rw [if_pos h]

theorem splitTokens_comma (h : token.kind = .comma) :
    splitTokens final 0 (token :: tokens) = (splitTokens final 0 tokens).push token.gap := by
  rw [splitTokens.eq_def final 0 (token :: tokens)]
  simp only [h]
  rfl

variable (hopens : token.kind.opens = false)

include hopens

theorem splitTokens_closes_zero (h : token.kind.closes = true) :
    splitTokens final 0 (token :: tokens) =
      ⟨token.gap, [], token.text ++ tokens.flatMap Token.written ++ final⟩ := by
  rw [splitTokens.eq_def final 0]
  simp only [hopens, h, Bool.false_eq_true, if_false, if_true]

theorem splitTokens_closes_succ (h : token.kind.closes = true) :
    splitTokens final (inner + 1) (token :: tokens) =
      (splitTokens final inner tokens).extend token.written := by
  rw [splitTokens.eq_def final (inner + 1)]
  simp only [hopens, h, Bool.false_eq_true, if_false, if_true]

theorem splitTokens_other (hcloses : token.kind.closes = false)
    (h : ¬ (token.kind = .comma ∧ inner = 0)) :
    splitTokens final inner (token :: tokens) =
      (splitTokens final inner tokens).extend token.written := by
  rw [splitTokens.eq_def final inner (token :: tokens)]
  simp only [hopens, hcloses, h, Bool.false_eq_true, if_false]

end SplitTokens

def CommaTokens (tokens : List Token) : Prop :=
  ∀ token ∈ tokens, token.kind = .comma → token.text = [',']

theorem Shape.eq_comma {word rest : List Char} (h : Shape .comma word rest) : word = [','] := by
  cases h
  rfl

theorem commaTokens_tokenLine (text : List Char) : CommaTokens (tokenLine text).tokens := by
  intro token hmem hkind
  obtain ⟨rest, hshape⟩ := (lexes_tokenLine text).exists_shape hmem
  rw [hkind] at hshape
  exact hshape.eq_comma

theorem splitTokens_written {tokens : List Token} (commas : CommaTokens tokens)
    (final : List Char) (inner : Nat) :
    (splitTokens final inner tokens).written = tokens.flatMap Token.written ++ final := by
  induction tokens generalizing inner with
  | nil => simp [splitTokens, Arguments.written]
  | cons token tokens ih =>
      obtain ⟨hcomma, htokens⟩ := List.forall_mem_cons.mp commas
      unfold splitTokens
      split
      · simp [ih htokens]
      · split
        · cases inner with
          | zero => simp [Arguments.written, Token.written]
          | succ inner => simp [ih htokens]
        · split
          · next hseparator =>
              simp [ih htokens, Token.written, hcomma hseparator.1]
          · simp [ih htokens]

theorem splitPlain_written (text : List Char) : (splitPlain text).written = text := by
  induction text with
  | nil => rfl
  | cons c text ih =>
      rw [splitPlain]
      split
      · simp [Arguments.written]
      · split
        · next hc => simp [ih, hc]
        · simp [ih]

theorem splitArguments_written (text : List Char) : (splitArguments text).written = text := by
  have hwritten := tokenLine_written text
  unfold splitArguments
  dsimp only
  split
  · next gap hending =>
      rw [splitTokens_written (commaTokens_tokenLine text)]
      rwa [TokenLine.written, hending] at hwritten
  · exact splitPlain_written text

theorem splitArguments_of_line {text final : List Char} {line : TokenLine}
    (hline : tokenLine text = line) (hending : line.ending = .complete final) :
    splitArguments text = splitTokens final 0 line.tokens := by
  rw [splitArguments, hline, hending]

theorem splitArguments_of_not_complete {text : List Char} (h : ¬ Complete text) :
    splitArguments text = splitPlain text := by
  rw [splitArguments]
  cases hending : (tokenLine text).ending with
  | complete final => exact absurd ⟨final, hending⟩ h
  | unclosed what gap tail => rfl

def closers : List Char := [')', ']', '\x7d']

theorem Shape.exists_closer {kind : Kind} {word rest : List Char} (h : Shape kind word rest)
    (hcloses : kind.closes = true) : ∃ c ∈ closers, word = [c] := by
  cases h <;> simp [Kind.closes, closers] at hcloses ⊢

theorem splitTokens_rest {tokens : List Token} (final : List Char) (inner : Nat)
    (hclosers : ∀ token ∈ tokens, token.kind.closes = true → ∃ c ∈ closers, token.text = [c]) :
    ∀ c ∈ (splitTokens final inner tokens).rest.head?, c ∈ closers := by
  induction tokens generalizing inner with
  | nil => simp [splitTokens]
  | cons token tokens ih =>
      obtain ⟨htoken, htokens⟩ := List.forall_mem_cons.mp hclosers
      unfold splitTokens
      split
      · exact ih (inner + 1) htokens
      · split
        · next hcloses =>
            cases inner with
            | zero =>
                obtain ⟨c, hc, htext⟩ := htoken hcloses
                simpa [htext] using hc
            | succ inner => exact ih inner htokens
        · split
          · exact ih inner htokens
          · exact ih inner htokens

theorem splitPlain_rest (text : List Char) : ∀ c ∈ (splitPlain text).rest.head?, c = ')' := by
  induction text with
  | nil => simp [splitPlain]
  | cons c text ih =>
      rw [splitPlain]
      split
      · next hc => simp [hc]
      · split
        · exact ih
        · exact ih

theorem splitArguments_rest (text : List Char) :
    ∀ c ∈ (splitArguments text).rest.head?, c ∈ closers := by
  unfold splitArguments
  dsimp only
  split
  · apply splitTokens_rest
    intro token hmem
    obtain ⟨rest, hshape⟩ := (lexes_tokenLine text).exists_shape hmem
    exact hshape.exists_closer
  · intro c hc
    simp [splitPlain_rest text c hc, closers]

section RawCommas

variable {piece : List Char}

theorem splitPlain_comma (hcomma : ',' ∉ piece) (hparen : ')' ∉ piece) (rest : List Char) :
    splitPlain (piece ++ ',' :: rest) = (splitPlain rest).push piece := by
  induction piece with
  | nil => rfl
  | cons c piece ih =>
      rw [List.mem_cons, not_or] at hcomma hparen
      rw [List.cons_append, splitPlain, if_neg (Ne.symm hparen.1), if_neg (Ne.symm hcomma.1),
        ih hcomma.2 hparen.2]
      rfl

theorem splitPlain_paren (hcomma : ',' ∉ piece) (hparen : ')' ∉ piece) (rest : List Char) :
    splitPlain (piece ++ ')' :: rest) = ⟨piece, [], ')' :: rest⟩ := by
  induction piece with
  | nil => rfl
  | cons c piece ih =>
      rw [List.mem_cons, not_or] at hcomma hparen
      rw [List.cons_append, splitPlain, if_neg (Ne.symm hparen.1), if_neg (Ne.symm hcomma.1),
        ih hcomma.2 hparen.2]
      rfl

theorem not_mem_of_mem_splitPlain {text : List Char} (h : piece ∈ (splitPlain text).all) :
    ',' ∉ piece ∧ ')' ∉ piece := by
  induction text generalizing piece with
  | nil =>
      obtain rfl : piece = [] := by simpa [splitPlain, Arguments.all] using h
      simp
  | cons c text ih =>
      rw [splitPlain] at h
      split at h
      · obtain rfl : piece = [] := by simpa [Arguments.all] using h
        simp
      · next hparen =>
          split at h
          · change piece ∈ [] :: (splitPlain text).all at h
            rcases List.mem_cons.mp h with rfl | h
            · simp
            · exact ih h
          · next hcomma =>
              change piece ∈ (c :: (splitPlain text).first) :: (splitPlain text).others at h
              rcases List.mem_cons.mp h with rfl | h
              · have hfirst := @ih (splitPlain text).first List.mem_cons_self
                simp [hfirst, Ne.symm hparen, Ne.symm hcomma]
              · exact ih (List.mem_cons_of_mem _ h)

/-- Raw commas give back pieces that were joined, and the parenthesis behind them, just where
the pieces hold neither. -/
theorem splitPlain_intercalate_iff {pieces : List (List Char)} (ne_nil : pieces ≠ []) {c : Char}
    {rest : List Char} :
    (splitPlain ([','].intercalate pieces ++ c :: rest)).all = pieces ↔
      c = ')' ∧ ∀ piece ∈ pieces, ',' ∉ piece ∧ ')' ∉ piece := by
  constructor
  · intro h
    refine ⟨?_, fun piece hpiece => not_mem_of_mem_splitPlain (h ▸ hpiece)⟩
    have hwritten := splitPlain_written ([','].intercalate pieces ++ c :: rest)
    rw [Arguments.written_eq_intercalate, h] at hwritten
    exact splitPlain_rest _ c (by rw [List.append_cancel_left hwritten]; rfl)
  · rintro ⟨rfl, hpieces⟩
    induction pieces with
    | nil => contradiction
    | cons piece pieces ih =>
        obtain ⟨hpiece, hpieces⟩ := List.forall_mem_cons.mp hpieces
        cases pieces with
        | nil =>
            rw [List.intercalate_singleton, splitPlain_paren hpiece.1 hpiece.2]
            rfl
        | cons second pieces =>
            have htext : [','].intercalate (piece :: second :: pieces) ++ ')' :: rest =
                piece ++ ',' :: ([','].intercalate (second :: pieces) ++ ')' :: rest) := by
              simp [List.intercalate_cons_cons]
            rw [htext, splitPlain_comma hpiece.1 hpiece.2]
            exact congrArg (piece :: ·) (ih (by simp) hpieces)

end RawCommas

/-! ## Spans -/

theorem byteSize_comma : byteSize [','] = 1 := rfl

theorem byteSize_leftParen : byteSize ['('] = 1 := rfl

theorem tokenSpans_locateFrom {tokens : List Token} (commas : CommaTokens tokens)
    {final pre : List Char} {size inner start offset : Nat}
    (hsize : size = offset + byteSize (tokens.flatMap Token.written ++ final))
    (hoffset : offset = start + byteSize pre) :
    tokenSpans size (inner + 1) start (locateFrom offset tokens) =
      spansFrom start ((splitTokens final inner tokens).extend pre).all := by
  induction tokens generalizing inner start offset pre with
  | nil =>
      subst hsize hoffset
      simp [tokenSpans, locateFrom, splitTokens, Arguments.extend, Arguments.all, spansFrom]
      omega
  | cons token tokens ih =>
      obtain ⟨hcomma, htokens⟩ := List.forall_mem_cons.mp commas
      have hsize' : size = offset + byteSize token.gap + byteSize token.text +
          byteSize (tokens.flatMap Token.written ++ final) := by
        simp [Token.written] at hsize ⊢
        omega
      have hoffset' : offset + byteSize token.gap + byteSize token.text =
          start + byteSize (pre ++ token.written) := by
        simp [Token.written]
        omega
      rw [locateFrom, tokenSpans]
      unfold splitTokens
      dsimp only
      split
      · rw [Arguments.extend_extend]
        exact ih htokens hsize' hoffset'
      · split
        · cases inner with
          | zero =>
              simp [Arguments.extend, Arguments.all, spansFrom]
              omega
          | succ inner =>
              rw [if_neg (by omega), Arguments.extend_extend]
              exact ih htokens hsize' hoffset'
        · by_cases hseparator : token.kind = .comma ∧ inner = 0
          · have hseparator' : token.kind = .comma ∧ inner + 1 = 1 := by simpa using hseparator
            have htail := @ih htokens [] inner (offset + byteSize token.gap + byteSize token.text)
              _ hsize' rfl
            rw [if_pos hseparator, if_pos hseparator', htail, Arguments.extend_nil,
              Arguments.all_push_extend, spansFrom, hcomma hseparator.1, byteSize_comma]
            simp [hoffset, Nat.add_assoc]
          · have hseparator' : ¬ (token.kind = .comma ∧ inner + 1 = 1) := by simpa using hseparator
            rw [if_neg hseparator, if_neg hseparator', Arguments.extend_extend]
            exact ih htokens hsize' hoffset'

theorem plainSpans_eq {text pre : List Char} {start offset : Nat}
    (hoffset : offset = start + byteSize pre) :
    plainSpans start offset text = spansFrom start ((splitPlain text).extend pre).all := by
  induction text generalizing start offset pre with
  | nil => simp [plainSpans, splitPlain, Arguments.extend, Arguments.all, spansFrom, hoffset]
  | cons c text ih =>
      rw [plainSpans, splitPlain]
      split
      · simp [Arguments.extend, Arguments.all, spansFrom, hoffset]
      · split
        · have htail := @ih [] (offset + 1) (offset + 1) rfl
          rw [Arguments.all_push_extend, spansFrom]
          simpa [hoffset] using htail
        · rw [Arguments.extend_extend]
          apply ih
          simp [hoffset, Nat.add_assoc]

theorem tokenSpans_splitTokens {text final : List Char} {line : TokenLine}
    (hline : tokenLine text = line) (hending : line.ending = .complete final) (start : Nat) :
    tokenSpans (start + byteSize text) 1 start (locateFrom start line.tokens) =
      spansFrom start (splitArguments text).all := by
  subst hline
  have hwritten := tokenLine_written text
  rw [TokenLine.written, hending] at hwritten
  have hspans := @tokenSpans_locateFrom _ (commaTokens_tokenLine text) final [] _ 0 start start
    rfl rfl
  rw [show (tokenLine text).tokens.flatMap Token.written ++ final = text from hwritten] at hspans
  rw [splitArguments, hending]
  simpa using hspans

theorem plainSpans_splitPlain {text : List Char} {what : Unclosed} {gap tail : List Char}
    (hending : (tokenLine text).ending = .unclosed what gap tail) (start : Nat) :
    plainSpans start start text = spansFrom start (splitArguments text).all := by
  rw [splitArguments, hending]
  simpa using @plainSpans_eq text [] start start rfl

theorem slices_spansFrom (before : List Char) (pieces : List (List Char)) (after : List Char) :
    List.Forall₂
      (fun span piece =>
        slice? (before ++ ([','].intercalate pieces ++ after)) span.start span.stop = some piece)
      (spansFrom (byteSize before) pieces) pieces := by
  induction pieces generalizing before with
  | nil => exact .nil
  | cons piece pieces ih =>
      cases pieces with
      | nil =>
          refine .cons ?_ .nil
          rw [slice?_eq_some_iff]
          exact ⟨before, after, by simp, rfl, rfl⟩
      | cons second pieces =>
          have htail := ih (before ++ piece ++ [','])
          rw [byteSize_append, byteSize_append, byteSize_comma] at htail
          rw [List.intercalate_cons_cons]
          refine .cons ?_ (by simpa using htail)
          rw [slice?_eq_some_iff]
          exact ⟨before, ',' :: ([','].intercalate (second :: pieces) ++ after), by simp, rfl, rfl⟩

theorem getElem?_of_forall₂ {α β : Type} {r : α → β → Prop} {as : List α} {bs : List β}
    (h : List.Forall₂ r as bs) (index : Nat) :
    (as[index]? = none ∧ bs[index]? = none) ∨
      ∃ a b, as[index]? = some a ∧ bs[index]? = some b ∧ r a b := by
  induction h generalizing index with
  | nil => simp
  | @cons a b as bs hab _ ih =>
      cases index with
      | zero => exact .inr ⟨a, b, rfl, rfl, hab⟩
      | succ index => simpa using ih index

theorem spansFrom_isChain (offset : Nat) (pieces : List (List Char)) :
    (spansFrom offset pieces).IsChain (fun first second => first.stop + 1 = second.start) := by
  induction pieces generalizing offset with
  | nil => exact .nil
  | cons piece pieces ih =>
      have htail := ih (offset + byteSize piece + 1)
      cases pieces with
      | nil => exact .singleton _
      | cons second pieces => exact .cons_cons rfl htail

theorem dropBytes?_spansFrom (before : List Char) (pieces : List (List Char))
    (after : List Char) {index : Nat} {span : Span}
    (h : (spansFrom (byteSize before) pieces)[index]? = some span) :
    dropBytes? span.start (before ++ ([','].intercalate pieces ++ after)) =
      some ([','].intercalate (pieces.drop index) ++ after) := by
  induction index generalizing before pieces with
  | zero =>
      cases pieces with
      | nil => simp [spansFrom] at h
      | cons piece pieces =>
          cases h
          exact dropBytes?_eq_some_iff.mpr ⟨before, rfl, rfl⟩
  | succ index ih =>
      cases pieces with
      | nil => simp [spansFrom] at h
      | cons piece pieces =>
          cases pieces with
          | nil => simp [spansFrom] at h
          | cons second pieces =>
              have htail := ih (before ++ piece ++ [',']) (second :: pieces) (by
                rw [byteSize_append, byteSize_append, byteSize_comma]
                exact h)
              rw [List.intercalate_cons_cons]
              simpa using htail

end TableLineage.Formula
