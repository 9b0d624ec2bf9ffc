import TableLineage.Formula.Mode
import TableLineage.Proofs.Formula.Classification

/-!
# Tokens and characters cut alike

`classify_characterSpans`: the pass over the characters finds the arguments
that the tokens give.  Every part of the grammar is followed through the modes
of the pass: gaps and all tokens but brackets and commas bring it back to code
with the same depth and the same argument being read.
-/

namespace TableLineage.Formula

open TableLineage.Text

section Characters

variable {c : Char} (rest : List Char) (depth start offset : Nat)

def cutters : List Char := ['(', ')', '[', ']', '\x7b', '\x7d', ',']

theorem passSpans_of_not_cutter (reading : Reading)
    (h : reading.inCode = true → c ∉ cutters) :
    passSpans reading depth start offset (c :: rest) =
      passSpans (reading.next c rest.head?) depth start (offset + c.utf8Size) rest := by
  rw [passSpans]
  split
  · next hcode =>
      have hc := h hcode
      simp only [cutters, List.mem_cons, List.not_mem_nil, or_false, not_or] at hc
      have hopens : opensGroup c = false := by simp [opensGroup, hc]
      have hcloses : closesGroup c = false := by simp [closesGroup, hc]
      simp [hopens, hcloses, hc]
  · rfl

end Characters

/-- The reading goes over the word in front of `rest`, and nothing in it cuts or nests. -/
inductive Passes : Reading → List Char → List Char → Reading → Prop
  | nil {reading : Reading} {rest : List Char} : Passes reading [] rest reading
  | cons {reading final : Reading} {c : Char} {word rest : List Char} :
      (reading.inCode = true → c ∉ cutters) →
        Passes (reading.next c (word ++ rest).head?) word rest final →
          Passes reading (c :: word) rest final

theorem Passes.after_eq {reading final : Reading} {word rest : List Char}
    (h : Passes reading word rest final) : reading.after rest word = final := by
  induction h with
  | nil => rfl
  | cons _ _ ih => exact ih

theorem Passes.passSpans_eq {reading final : Reading} {word rest : List Char}
    (h : Passes reading word rest final) (depth start offset : Nat) :
    passSpans reading depth start offset (word ++ rest) =
      passSpans final depth start (offset + byteSize word) rest := by
  induction h generalizing offset with
  | nil => rfl
  | cons hc _ ih =>
      rw [List.cons_append, passSpans_of_not_cutter _ _ _ _ _ hc, ih, byteSize_cons, Nat.add_assoc]

theorem Passes.append {reading middle final : Reading} {first second rest : List Char}
    (h : Passes reading first (second ++ rest) middle) (h' : Passes middle second rest final) :
    Passes reading (first ++ second) rest final := by
  induction first generalizing reading with
  | nil =>
      cases h
      exact h'
  | cons c first ih =>
      cases h with
      | cons hc hfirst => exact .cons hc (by simpa using ih hfirst)

theorem Passes.cons_of_mode {mode : Mode} {final : Reading} {c : Char} {word rest : List Char}
    (hmode : mode ≠ .code) (h : Passes (Reading.next ⟨mode, false⟩ c (word ++ rest).head?) word rest
      final) : Passes ⟨mode, false⟩ (c :: word) rest final :=
  .cons (by simp [Reading.inCode, hmode]) h

theorem Passes.completing {mode : Mode} {final : Reading} {c : Char} {word rest : List Char}
    (h : Passes ⟨mode, false⟩ word rest final) : Passes ⟨mode, true⟩ (c :: word) rest final :=
  .cons (by simp [Reading.inCode]) h

theorem passes_of_next {c : Char} {rest : List Char} (hc : c ∉ cutters)
    (hnext : Reading.start.next c rest.head? = .start) : Passes .start [c] rest .start :=
  .cons (fun _ => hc) (by rw [List.nil_append, hnext]; exact .nil)

theorem passes_plain {c : Char} {rest : List Char} (hc : c ∉ '/' :: '"' :: cutters) :
    Passes .start [c] rest .start := by
  simp only [List.mem_cons, not_or] at hc
  obtain ⟨hslash, hquote, hcutters⟩ := hc
  exact passes_of_next hcutters (by simp [Reading.start, Reading.next, hslash, hquote])

theorem passes_slash {rest : List Char} (hslash : rest.head? ≠ some '/')
    (hstar : rest.head? ≠ some '*') : Passes .start ['/'] rest .start :=
  passes_of_next (by decide) (by simp [Reading.start, Reading.next, hslash, hstar])

theorem passes_of_not_mem_marks {c : Char} {rest : List Char} (hc : c ∉ marks) :
    Passes .start [c] rest .start := by
  have hsubset : '/' :: '"' :: cutters ⊆ marks := by simp [cutters, marks]
  exact passes_plain (mt (@hsubset c) hc)

theorem passes_dotted {part afterDot : Char → Bool} {tail rest : List Char}
    (hpart : ∀ c, part c = true → c ∉ marks) (dotted : Dotted part afterDot tail) :
    Passes .start tail rest .start := by
  induction dotted with
  | nil => exact .nil
  | @part c tail hc _ ih => exact (passes_of_not_mem_marks (hpart c hc)).append ih
  | @dot c tail _ _ ih => exact Passes.append (passes_of_not_mem_marks (by decide)) ih

theorem passes_nameTail {tail rest : List Char} (h : NameTail tail rest) :
    Passes .start tail rest .start :=
  passes_dotted (fun _ => not_mem_marks_of_isNamePart) h.1

theorem passes_digits {tail rest : List Char} (h : Digits tail rest) :
    Passes .start tail rest .start :=
  passes_dotted (fun _ hc => not_mem_marks (.inl hc)) h.1

theorem passes_doubled {body rest : List Char} (doubled : Doubled body) :
    Passes ⟨.literal, false⟩ body rest ⟨.literal, false⟩ := by
  induction doubled with
  | nil => exact .nil
  | @plain c body hc _ ih => exact .cons_of_mode (by decide) (by simpa [Reading.next, hc] using ih)
  | @pair body _ ih =>
      refine .cons_of_mode (by decide) ?_
      simpa [Reading.next] using ih.completing

theorem passes_literal {body rest : List Char} (doubled : Doubled body)
    (closed : rest.head? ≠ some '"') : Passes .start ('"' :: (body ++ ['"'])) rest .start := by
  have hclose : Passes ⟨.literal, false⟩ ['"'] rest .start :=
    .cons_of_mode (by decide) (by simp [Reading.next, closed]; exact .nil)
  exact .cons (by decide) ((passes_doubled doubled).append hclose)

theorem passes_line {body rest : List Char} (inner : '\n' ∉ body) :
    Passes ⟨.lineComment, false⟩ body rest ⟨.lineComment, false⟩ := by
  induction body with
  | nil => exact .nil
  | cons c body ih =>
      obtain ⟨hc, hbody⟩ := not_or.mp (mt List.mem_cons.mpr inner)
      exact .cons_of_mode (by decide) (by simpa [Reading.next, Ne.symm hc] using ih hbody)

theorem passes_inComment {body rest : List Char} (inner : ¬ ['*', '/'] <:+: body ++ rest.take 1) :
    Passes ⟨.blockComment, false⟩ body rest ⟨.blockComment, false⟩ := by
  induction body with
  | nil => exact .nil
  | cons c body ih =>
      rw [List.cons_append, closing_infix_cons, not_or] at inner
      have hhead : (body ++ rest.take 1).head? = (body ++ rest).head? := by
        cases body <;> cases rest <;> rfl
      rw [hhead] at inner
      have hnext : Reading.next ⟨.blockComment, false⟩ c (body ++ rest).head? =
          ⟨.blockComment, false⟩ := if_neg inner.1
      exact .cons_of_mode (by decide) (by rw [hnext]; exact ih inner.2)

theorem not_closing_infix_concat {body : List Char} (inner : ¬ ['*', '/'] <:+: body) :
    ¬ ['*', '/'] <:+: body ++ ['*'] := by
  rw [List.infix_concat_iff, not_or]
  refine ⟨?_, inner⟩
  rintro ⟨front, hfront⟩
  have hlast := congrArg List.getLast? hfront
  simp at hlast

theorem passes_closing (rest : List Char) :
    Passes ⟨.blockComment, false⟩ ['*', '/'] rest .start :=
  .cons_of_mode (by decide) (Passes.nil.completing)

/-- The reading goes on as from code.  Behind a line comment it gets there with the line feed. -/
def Resting (reading : Reading) (rest : List Char) : Prop :=
  reading = .start ∨ reading = ⟨.lineComment, false⟩ ∧ ∀ c ∈ rest.head?, c = '\n'

theorem Resting.start {rest : List Char} : Resting .start rest := .inl rfl

theorem Resting.passes {reading final : Reading} {word rest : List Char}
    (resting : Resting reading (word ++ rest)) (ne_nil : word ≠ [])
    (h : Passes .start word rest final) : Passes reading word rest final := by
  obtain rfl | ⟨rfl, hstop⟩ := resting
  · exact h
  · cases h with
    | nil => contradiction
    | @cons _ _ c word rest _ h =>
        obtain rfl : c = '\n' := hstop c rfl
        exact .cons_of_mode (by decide) h

theorem Resting.passSpans_eq {reading : Reading} {rest : List Char} (h : Resting reading rest)
    (depth start offset : Nat) :
    passSpans reading depth start offset rest = passSpans .start depth start offset rest := by
  cases rest with
  | nil => rfl
  | cons c rest =>
      obtain rfl | ⟨rfl, hstop⟩ := h
      · rfl
      · obtain rfl : c = '\n' := hstop c rfl
        rw [passSpans_of_not_cutter _ _ _ _ _ (by simp [Reading.inCode]),
          passSpans_of_not_cutter _ _ _ _ .start (by decide)]
        rfl

theorem passes_gapPiece {piece rest : List Char} (h : GapPiece piece rest) :
    ∃ final, Passes .start piece rest final ∧ Resting final rest := by
  cases h with
  | blank hc => exact ⟨_, passes_of_not_mem_marks (not_mem_marks_of_gapBlank hc), .start⟩
  | @lineComment body _ hbody hstop =>
      have hopening : Passes .start ['/', '/'] (body ++ rest) ⟨.lineComment, false⟩ :=
        .cons (by decide) Passes.nil.completing
      exact ⟨_, hopening.append (passes_line hbody), .inr ⟨rfl, hstop⟩⟩
  | @blockComment body _ hbody =>
      have hopening : Passes .start ['/', '*'] (body ++ ['*', '/'] ++ rest)
          ⟨.blockComment, false⟩ := .cons (by decide) Passes.nil.completing
      have hinside : Passes ⟨.blockComment, false⟩ body ('*' :: '/' :: rest)
          ⟨.blockComment, false⟩ := passes_inComment (not_closing_infix_concat hbody)
      exact ⟨_, hopening.append (hinside.append (passes_closing rest)), .start⟩

theorem passes_gap {gap rest : List Char} (h : Gap gap rest) {reading : Reading}
    (resting : Resting reading (gap ++ rest)) :
    ∃ final, Passes reading gap rest final ∧ Resting final rest := by
  induction h generalizing reading with
  | nil => exact ⟨reading, .nil, resting⟩
  | cons hpiece _ ih =>
      obtain ⟨middle, hfirst, hmiddle⟩ := passes_gapPiece hpiece
      obtain ⟨final, hsecond, hfinal⟩ := ih hmiddle
      rw [List.append_assoc] at resting
      exact ⟨final, (resting.passes hpiece.ne_nil hfirst).append hsecond, hfinal⟩

theorem passSpans_gap {gap rest : List Char} (h : Gap gap rest) (depth start offset : Nat) :
    passSpans .start depth start offset (gap ++ rest) =
      passSpans .start depth start (offset + byteSize gap) rest := by
  obtain ⟨final, hpasses, hfinal⟩ := passes_gap h .start
  rw [hpasses.passSpans_eq, hfinal.passSpans_eq]

def Kind.cuts (kind : Kind) : Bool := kind.opens || kind.closes || kind = .comma

theorem passes_shape {kind : Kind} {word rest : List Char} (h : Shape kind word rest)
    (hcuts : kind.cuts = false) : Passes .start word rest .start := by
  cases h with
  | leftParen | rightParen | leftSquare | rightSquare | leftBrace | rightBrace | comma =>
      contradiction
  | equal _ => exact passes_plain (by decide)
  | string hbody hclosed => exact passes_literal hbody hclosed
  | quotedIdentifier hbody hclosed =>
      exact (passes_plain (by decide)).append (passes_literal hbody hclosed)
  | number hc hdigits =>
      exact (passes_of_not_mem_marks (not_mem_marks (.inl hc))).append (passes_digits hdigits)
  | identifier hc hname =>
      exact (passes_of_not_mem_marks (not_mem_marks (.inr hc))).append (passes_nameTail hname)
  | hashIdentifier _ hname =>
      exact (passes_plain (by decide)).append (passes_nameTail hname)
  | arrow =>
      exact @Passes.append _ _ _ ['='] ['>'] _ (passes_plain (by decide)) (passes_plain (by decide))
  | slash hslash hstar => exact passes_slash hslash hstar
  | hash _ _ => exact passes_plain (by decide)
  | other hmarks _ _ _ _ => exact passes_of_not_mem_marks hmarks

section Cuts

variable {kind : Kind} {word rest : List Char} (h : Shape kind word rest)
  (depth start offset : Nat)

include h

theorem passSpans_opens (hopens : kind.opens = true) :
    passSpans .start depth start offset (word ++ rest) =
      passSpans .start (depth + 1) start (offset + byteSize word) rest := by
  cases h with
  | leftParen | leftSquare | leftBrace => rfl
  | _ => contradiction

theorem passSpans_closes (hcloses : kind.closes = true) :
    passSpans .start depth start offset (word ++ rest) =
      if depth = 1 then [⟨start, offset⟩]
      else passSpans .start (depth - 1) start (offset + byteSize word) rest := by
  cases h with
  | rightParen | rightSquare | rightBrace => rfl
  | _ => contradiction

theorem passSpans_comma (hcomma : kind = .comma) :
    passSpans .start depth start offset (word ++ rest) =
      if depth = 1 then
        ⟨start, offset⟩ ::
          passSpans .start depth (offset + byteSize word) (offset + byteSize word) rest
      else passSpans .start depth start (offset + byteSize word) rest := by
  subst hcomma
  cases h with
  | comma =>
      rw [List.singleton_append, passSpans]
      simp [Reading.inCode, Reading.start, Reading.next, opensGroup, closesGroup]

end Cuts

theorem passSpans_eq_tokenSpans {text final : List Char} {line : TokenLine}
    (h : Lexes text line) (hending : line.ending = .complete final) (depth start offset : Nat) :
    passSpans .start depth start offset text =
      tokenSpans (offset + byteSize text) depth start (locateFrom offset line.tokens) := by
  induction h generalizing depth start offset with
  | @complete gap hgap =>
      have hpass := passSpans_gap hgap depth start offset
      rwa [List.append_nil] at hpass
  | unclosed => contradiction
  | @token token rest line hgap hshape _ ih =>
      have hstop : offset + byteSize token.written + byteSize rest =
          offset + byteSize token.gap + byteSize token.text + byteSize rest := by
        rw [Token.written, byteSize_append, ← Nat.add_assoc]
      rw [TokenLine.push, locateFrom, tokenSpans, byteSize_append, ← Nat.add_assoc, hstop,
        Token.written, List.append_assoc, passSpans_gap hgap]
      dsimp only
      split
      · next hopens => rw [passSpans_opens hshape _ _ _ hopens, ih hending]
      · next hopens =>
          split
          · next hcloses => rw [passSpans_closes hshape _ _ _ hcloses, ih hending]
          · next hcloses =>
              by_cases hcomma : token.kind = .comma
              · rw [passSpans_comma hshape _ _ _ hcomma, ih hending, ih hending]
                simp [hcomma]
              · have hcuts : token.kind.cuts = false := by
                  simp [Kind.cuts, hopens, hcloses, hcomma]
                rw [(passes_shape hshape hcuts).passSpans_eq, ih hending]
                simp [hcomma]

theorem tokenSpans_filter_cuts (size depth start : Nat) (located : List Located) :
    tokenSpans size depth start (located.filter (·.token.kind.cuts)) =
      tokenSpans size depth start located := by
  induction located generalizing depth start with
  | nil => rfl
  | cons located rest ih =>
      by_cases hcuts : located.token.kind.cuts = true
      · rw [List.filter_cons, if_pos hcuts, tokenSpans, tokenSpans]
        simp only [ih]
      · obtain ⟨⟨hopens, hcloses⟩, hcomma⟩ :
            (located.token.kind.opens = false ∧ located.token.kind.closes = false) ∧
              located.token.kind ≠ .comma := by
          simpa [Kind.cuts] using hcuts
        rw [List.filter_cons, if_neg hcuts, ih, tokenSpans]
        simp [hopens, hcloses, hcomma]

theorem characterSpans_call {name inside final : List Char} (hname : '(' ∉ name)
    (hending : (tokenLine inside).ending = .complete final) :
    characterSpans (name ++ '(' :: inside) =
      spansFrom (byteSize name + 1) (splitArguments inside).all := by
  have hsplit : splitOnce '(' (name ++ '(' :: inside) = some (name, inside) :=
    splitOnce_eq_some_iff.mpr ⟨rfl, hname⟩
  rw [characterSpans, hsplit]
  dsimp only
  rw [passSpans_eq_tokenSpans (lexes_tokenLine inside) hending,
    tokenSpans_splitTokens rfl hending]

theorem argumentSpans?_of_complete {text final : List Char} {spans : List Span}
    (hending : (tokenLine text).ending = .complete final)
    (h : argumentSpans? text = some spans) :
    ∃ opening inside,
      (tokenLine text).located.dropWhile (·.token.kind ≠ .leftParen) = opening :: inside ∧
      spans = tokenSpans (byteSize text) 1 opening.stop inside := by
  rw [argumentSpans?, hending] at h
  dsimp only at h
  split at h
  · contradiction
  · next opening inside hgroup => exact ⟨opening, inside, hgroup, (Option.some.inj h).symm⟩

/-! ## Main result -/

theorem classify_characterSpans (expression : List (List Char)) (call : Call)
    (classified : classify expression = .ok call)
    (accepted : (listing call.text).failure? = none) :
    argumentSpans? call.text = some (characterSpans call.text) ∧
    (∀ index, call.argument? index =
      (characterSpans call.text)[index]?.bind fun span =>
        slice? call.text span.start span.stop) ∧
    ∃ opening inside,
      (tokenLine call.text).located.dropWhile (·.token.kind ≠ .leftParen) = opening :: inside ∧
      characterSpans call.text =
        tokenSpans (byteSize call.text) 1 opening.stop (inside.filter (·.token.kind.cuts)) := by
  obtain ⟨line, lhs, name, inside, -, hcall, hname, rfl⟩ := classify_eq_ok_iff.mp classified
  have htiles := tiles_of_callLine hcall hname
  have htext := Call.text_splitArguments name inside
  obtain ⟨final, hending⟩ := complete_of_accepted accepted
  have hinside : (tokenLine inside).ending = .complete final := by
    rw [← ending_of_call hname inside, ← htext, hending]
  have hspans : Call.spans ⟨name, splitArguments inside⟩ =
      characterSpans (Call.text ⟨name, splitArguments inside⟩) := by
    rw [htext, characterSpans_call hcall.name_free hinside, Call.spans]
  rw [← hspans]
  refine ⟨htiles.spans_eq, htiles.argument_eq, ?_⟩
  obtain ⟨opening, group, hgroup, hcuts⟩ := argumentSpans?_of_complete hending htiles.spans_eq
  refine ⟨opening, group, hgroup, ?_⟩
  rw [tokenSpans_filter_cuts, hcuts]

theorem classify_characterSpans_nested :
    ∃ call,
      classify ["let".toList, "S = Sql.Database(\"é,\"\"(\", #\"]\"/*,*/[x=1,2], b".toList] =
        .ok call ∧
      (listing call.text).failure? = none ∧
      argumentSpans? call.text = some [⟨14, 22⟩, ⟨23, 40⟩, ⟨41, 43⟩] := by
  have hclassify : classify
      ["let".toList, "S = Sql.Database(\"é,\"\"(\", #\"]\"/*,*/[x=1,2], b".toList] =
      .ok ⟨" Sql.Database".toList,
        ⟨"\"é,\"\"(\"".toList, [" #\"]\"/*,*/[x=1,2]".toList, " b".toList], []⟩⟩ := by
    decide +kernel
  refine ⟨_, hclassify, by decide +kernel, ?_⟩
  rw [(classify_characterSpans _ _ hclassify (by decide +kernel)).1]
  decide +kernel

end TableLineage.Formula
