import TableLineage.Proofs.Formula.CharacterPass

/-!
# Reading up to a fence

A bracket, a comma or a line feed is never taken into a token that began
before it.  So a complete text is read in front of one as it is read alone,
`tokenLine_append`, and what was read in front of one is read so alone,
`Lexes.truncate`.
-/

namespace TableLineage.Formula

open TableLineage.Text

def fences : List Char := '\n' :: cutters

def Fenced (rest : List Char) : Prop := ∀ c ∈ rest.head?, c ∈ fences

theorem fenced_cons {c : Char} (h : c ∈ fences) (rest : List Char) : Fenced (c :: rest) := by
  simpa [Fenced] using h

theorem Fenced.head?_append {p : Char → Prop} {left rest : List Char} (h : Fenced rest)
    (apart : ∀ c ∈ fences, p c) (hleft : ∀ c ∈ left.head?, p c) :
    ∀ c ∈ (left ++ rest).head?, p c := by
  cases left with
  | nil => exact fun c hc => apart c (h c hc)
  | cons d left => simpa using hleft

theorem Fenced.head?_ne {d : Char} {left rest : List Char} (h : Fenced rest) (apart : d ∉ fences)
    (hleft : left.head? ≠ some d) : (left ++ rest).head? ≠ some d := by
  have hleft' : ∀ c ∈ left.head?, c ≠ d := by
    rintro c hc rfl
    exact hleft hc
  have hall := h.head?_append (p := (· ≠ d)) (fun c hc => ne_of_mem_of_not_mem hc apart) hleft'
  exact fun hd => hall d hd rfl

theorem isLetter_of_mem_fences {c : Char} (h : c ∈ fences) : isLetter c = false := by
  have hout : fences.all (!isLetter ·) = true := by decide
  simpa using List.all_eq_true.mp hout c h

theorem Continues.append {part afterDot : Char → Bool} {left : List Char}
    (h : Continues part afterDot left) (rest : List Char) :
    Continues part afterDot (left ++ rest) := by
  obtain ⟨c, tail, rfl, hc⟩ := h
  refine ⟨c, tail ++ rest, rfl, hc.imp_right ?_⟩
  rintro ⟨hdot, d, hd, hafter⟩
  exact ⟨hdot, d, by cases tail <;> simp_all, hafter⟩

theorem Fenced.not_continues {part afterDot : Char → Bool} {left rest : List Char}
    (h : Fenced rest) (apart : fences.all (fun c => !part c && !afterDot c) = true)
    (hleft : ¬ Continues part afterDot left) : ¬ Continues part afterDot (left ++ rest) := by
  have hout : ∀ c ∈ fences, part c = false ∧ afterDot c = false := by
    simpa only [List.all_eq_true, Bool.and_eq_true, Bool.not_eq_true'] using apart
  cases left with
  | nil =>
      rintro ⟨c, tail, rfl, hc⟩
      have hfence : c ∈ fences := h c rfl
      rcases hc with hpart | ⟨rfl, -⟩
      · simp [hout c hfence] at hpart
      · exact absurd hfence (by decide)
  | cons c tail =>
      rw [List.cons_append, continues_cons_iff]
      rw [continues_cons_iff] at hleft
      cases tail with
      | cons d tail => exact hleft
      | nil =>
          cases rest with
          | nil => exact hleft
          | cons d rest =>
              have hd := hout d (h d rfl)
              simpa [dottedPart, hd] using hleft

theorem Shape.append {kind : Kind} {word left rest : List Char} (h : Shape kind word left)
    (fenced : Fenced rest) : Shape kind word (left ++ rest) := by
  cases h with
  | leftParen => exact .leftParen
  | rightParen => exact .rightParen
  | leftSquare => exact .leftSquare
  | rightSquare => exact .rightSquare
  | leftBrace => exact .leftBrace
  | rightBrace => exact .rightBrace
  | comma => exact .comma
  | arrow => exact .arrow
  | equal hhead => exact .equal (fenced.head?_ne (by decide) hhead)
  | string hbody hclosed => exact .string hbody (fenced.head?_ne (by decide) hclosed)
  | quotedIdentifier hbody hclosed =>
      exact .quotedIdentifier hbody (fenced.head?_ne (by decide) hclosed)
  | number hc hdigits => exact .number hc ⟨hdigits.1, fenced.not_continues (by decide) hdigits.2⟩
  | identifier hc hname =>
      exact .identifier hc ⟨hname.1, fenced.not_continues (by decide) hname.2⟩
  | hashIdentifier hc hname =>
      exact .hashIdentifier hc ⟨hname.1, fenced.not_continues (by decide) hname.2⟩
  | slash hslash hstar =>
      exact .slash (fenced.head?_ne (by decide) hslash) (fenced.head?_ne (by decide) hstar)
  | hash hquote hletter =>
      exact .hash (fenced.head?_ne (by decide) hquote)
        (fenced.head?_append (fun c => isLetter_of_mem_fences) hletter)
  | other hmarks hblank hdigit hletter hunderscore =>
      exact .other hmarks hblank hdigit hletter hunderscore

theorem mem_head?_append {left rest : List Char} {c : Char} (h : c ∈ left.head?) :
    c ∈ (left ++ rest).head? := by
  cases left with
  | nil => simp at h
  | cons d left => exact h

theorem Shape.truncate {kind : Kind} {word left rest : List Char}
    (h : Shape kind word (left ++ rest)) : Shape kind word left := by
  have hhead {d : Char} (hd : (left ++ rest).head? ≠ some d) : left.head? ≠ some d :=
    fun hleft => hd (mem_head?_append hleft)
  have hcontinues {part afterDot : Char → Bool}
      (hc : ¬ Continues part afterDot (left ++ rest)) : ¬ Continues part afterDot left :=
    fun hleft => hc (hleft.append rest)
  cases h with
  | leftParen => exact .leftParen
  | rightParen => exact .rightParen
  | leftSquare => exact .leftSquare
  | rightSquare => exact .rightSquare
  | leftBrace => exact .leftBrace
  | rightBrace => exact .rightBrace
  | comma => exact .comma
  | arrow => exact .arrow
  | equal harrow => exact .equal (hhead harrow)
  | string hbody hclosed => exact .string hbody (hhead hclosed)
  | quotedIdentifier hbody hclosed => exact .quotedIdentifier hbody (hhead hclosed)
  | number hc hdigits => exact .number hc ⟨hdigits.1, hcontinues hdigits.2⟩
  | identifier hc hname => exact .identifier hc ⟨hname.1, hcontinues hname.2⟩
  | hashIdentifier hc hname => exact .hashIdentifier hc ⟨hname.1, hcontinues hname.2⟩
  | slash hslash hstar => exact .slash (hhead hslash) (hhead hstar)
  | hash hquote hletter =>
      exact .hash (hhead hquote) fun c hc => hletter c (mem_head?_append hc)
  | other hmarks hblank hdigit hletter hunderscore =>
      exact .other hmarks hblank hdigit hletter hunderscore

/-- A piece of a gap looks no further than at the first character behind it. -/
theorem GapPiece.of_head? {piece rest rest' : List Char} (h : GapPiece piece rest)
    (hhead : ∀ c ∈ rest'.head?, c ∈ rest.head?) : GapPiece piece rest' := by
  cases h with
  | blank hc => exact .blank hc
  | lineComment hbody hstop => exact .lineComment hbody fun c hc => hstop c (hhead c hc)
  | blockComment hbody => exact .blockComment hbody

theorem Gap.of_head? {gap rest rest' : List Char} (h : Gap gap rest)
    (hhead : ∀ c ∈ rest'.head?, c ∈ rest.head?) : Gap gap rest' := by
  induction h with
  | nil => exact .nil
  | @cons piece gap rest hpiece _ ih =>
      refine .cons (hpiece.of_head? ?_) (ih hhead)
      cases gap with
      | nil => simpa using hhead
      | cons d gap => simp

theorem Gap.append {gap left : List Char} (h : Gap gap left) (ne_nil : left ≠ [])
    (rest : List Char) : Gap gap (left ++ rest) := by
  apply h.of_head?
  cases left with
  | nil => contradiction
  | cons d left => simp

def TokenLine.prepend (tokens : List Token) (line : TokenLine) : TokenLine :=
  ⟨tokens ++ line.tokens, line.ending⟩

theorem tokenLine_append {front rest gap : List Char} {line : TokenLine} (h : Lexes front line)
    (hending : line.ending = .complete gap) (fenced : Fenced rest) (hgap : Gap gap rest) :
    tokenLine (front ++ rest) = ((tokenLine rest).widen gap).prepend line.tokens := by
  -- The gap at the end of the front becomes the gap of the first token behind it.
  induction h with
  | complete _ =>
      cases hending
      exact tokenLine_gap hgap
  | unclosed => contradiction
  | @token token left line htoken hshape _ ih =>
      have htext : token.written ++ left ++ rest = token.gap ++ (token.text ++ (left ++ rest)) := by
        simp [Token.written]
      have htoken' : Gap token.gap (token.text ++ (left ++ rest)) := by
        rw [← List.append_assoc]
        exact htoken.append (by simp [hshape.ne_nil]) rest
      rw [htext, tokenLine_gap htoken', tokenLine_shape (hshape.append fenced), ih hending]
      simp [TokenLine.widen, TokenLine.push, TokenLine.prepend]

theorem lexes_cons_iff {token : Token} {tokens : List Token} {ending : Ending}
    {text : List Char} :
    Lexes text ⟨token :: tokens, ending⟩ ↔
      ∃ rest, text = token.written ++ rest ∧ Gap token.gap (token.text ++ rest) ∧
        Shape token.kind token.text rest ∧ Lexes rest ⟨tokens, ending⟩ := by
  constructor
  · intro h
    generalize hline : TokenLine.mk (token :: tokens) ending = line at h
    cases h with
    | complete _ => cases hline
    | unclosed _ _ => cases hline
    | @token _ rest _ hgap hshape hrest =>
        cases hline
        exact ⟨rest, rfl, hgap, hshape, hrest⟩
  · rintro ⟨rest, rfl, hgap, hshape, hrest⟩
    exact .token hgap hshape hrest

/-- What stands before a token is read alone as it was read with the token behind it. -/
theorem Lexes.truncate {before after : List Token} {token : Token} {text : List Char}
    {ending : Ending} (h : Lexes text ⟨before ++ token :: after, ending⟩) :
    ∃ left, text = before.flatMap Token.written ++ (token.written ++ left) ∧
      Lexes (before.flatMap Token.written ++ token.gap) ⟨before, .complete token.gap⟩ ∧
      Gap token.gap (token.text ++ left) ∧ Shape token.kind token.text left := by
  induction before generalizing text with
  | nil =>
      obtain ⟨left, rfl, hgap, hshape, -⟩ := lexes_cons_iff.mp h
      exact ⟨left, rfl, .complete (hgap.of_head? (by simp)), hgap, hshape⟩
  | cons first before ih =>
      obtain ⟨rest, rfl, hfirst, hword, hrest⟩ := lexes_cons_iff.mp h
      obtain ⟨left, rfl, hbefore, hgap, hshape⟩ := ih hrest
      refine ⟨left, by simp, ?_, hgap, hshape⟩
      rw [List.flatMap_cons, List.append_assoc, lexes_cons_iff]
      have hcut : before.flatMap Token.written ++ (token.written ++ left) =
          before.flatMap Token.written ++ token.gap ++ (token.text ++ left) := by
        simp [Token.written]
      rw [hcut] at hfirst hword
      refine ⟨_, rfl, hfirst.of_head? ?_, hword.truncate, hbefore⟩
      intro c hc
      rw [← List.append_assoc]
      exact mem_head?_append hc

theorem Shape.eq_cutter {kind : Kind} {word rest : List Char} (h : Shape kind word rest)
    (hcuts : kind.cuts = true) : ∃ c ∈ cutters, word = [c] := by
  cases h <;> simp [Kind.cuts, Kind.opens, Kind.closes, cutters] at hcuts ⊢

theorem Shape.of_cuts {kind : Kind} {word rest : List Char} (h : Shape kind word rest)
    (hcuts : kind.cuts = true) (rest' : List Char) : Shape kind word rest' := by
  cases h with
  | leftParen => exact .leftParen
  | rightParen => exact .rightParen
  | leftSquare => exact .leftSquare
  | rightSquare => exact .rightSquare
  | leftBrace => exact .leftBrace
  | rightBrace => exact .rightBrace
  | comma => exact .comma
  | _ => contradiction

theorem tokenLine_cut {front rest : List Char} {tokens : List Token} {token : Token}
    (hfront : Lexes front ⟨tokens, .complete token.gap⟩) (hgap : Gap token.gap (token.text ++ rest))
    (hshape : Shape token.kind token.text rest) (hcuts : token.kind.cuts = true) :
    tokenLine (front ++ (token.text ++ rest)) =
      (tokenLine rest).prepend (tokens ++ [token]) := by
  have hfenced : Fenced (token.text ++ rest) := by
    obtain ⟨c, hc, htext⟩ := hshape.eq_cutter hcuts
    rw [htext]
    exact fenced_cons (List.mem_cons_of_mem _ hc) rest
  rw [tokenLine_append hfront rfl hfenced hgap, tokenLine_shape hshape]
  simp [TokenLine.widen, TokenLine.push, TokenLine.prepend]

/-! ## Arguments in front of a separator -/

theorem splitTokens_append {tokens : List Token} (uncut : ∀ token ∈ tokens, token.kind.cuts = false)
    (final : List Char) (inner : Nat) (more : List Token) :
    splitTokens final inner (tokens ++ more) =
      (splitTokens final inner more).extend (tokens.flatMap Token.written) := by
  induction tokens with
  | nil => rfl
  | cons token tokens ih =>
      obtain ⟨htoken, htokens⟩ := List.forall_mem_cons.mp uncut
      simp only [Kind.cuts, Bool.or_eq_false_iff, decide_eq_false_iff_not] at htoken
      obtain ⟨⟨hopens, hcloses⟩, hcomma⟩ := htoken
      rw [List.cons_append, splitTokens_other _ _ _ hopens hcloses (fun h => hcomma h.1),
        ih htokens, Arguments.extend_extend]
      rfl

section Front

variable {front gap rest : List Char} {tokens : List Token}
  (hfront : Lexes front ⟨tokens, .complete gap⟩) (uncut : ∀ token ∈ tokens, token.kind.cuts = false)

include hfront uncut

theorem splitArguments_comma (hgap : Gap gap (',' :: rest)) (hrest : Complete rest) :
    splitArguments (front ++ ',' :: rest) = (splitArguments rest).push front := by
  obtain ⟨final, hending⟩ := hrest
  have hline : tokenLine (front ++ ',' :: rest) =
      (tokenLine rest).prepend (tokens ++ [⟨.comma, gap, [',']⟩]) :=
    @tokenLine_cut front rest tokens ⟨.comma, gap, [',']⟩ hfront hgap .comma rfl
  have hwritten : tokens.flatMap Token.written ++ gap = front := hfront.written
  rw [splitArguments_of_line hline hending, splitArguments_of_line rfl hending,
    TokenLine.prepend, List.append_assoc, splitTokens_append uncut, List.singleton_append,
    splitTokens_comma _ _ rfl]
  simp [Arguments.push, Arguments.extend, Arguments.all, hwritten]

theorem splitArguments_paren (hgap : Gap gap (')' :: rest)) (hrest : Complete rest) :
    splitArguments (front ++ ')' :: rest) = ⟨front, [], ')' :: rest⟩ := by
  obtain ⟨final, hending⟩ := hrest
  have hline : tokenLine (front ++ ')' :: rest) =
      (tokenLine rest).prepend (tokens ++ [⟨.rightParen, gap, [')']⟩]) :=
    @tokenLine_cut front rest tokens ⟨.rightParen, gap, [')']⟩ hfront hgap .rightParen rfl
  have hwritten : tokens.flatMap Token.written ++ gap = front := hfront.written
  have hrest := tokenLine_written rest
  rw [TokenLine.written, hending] at hrest
  rw [splitArguments_of_line hline hending, TokenLine.prepend, List.append_assoc,
    splitTokens_append uncut, List.singleton_append, splitTokens_closes_zero _ _ rfl rfl]
  simpa [Arguments.extend, hwritten, Ending.written] using hrest

end Front

end TableLineage.Formula
