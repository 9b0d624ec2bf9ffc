import TableLineage.Proofs.Formula.Fence

/-!
# Quiet arguments

A text without brackets, commas and comments, in which quotes come in pairs,
is one argument for the tokens and for the raw commas alike.  So the host and
the database of a call do not depend on how the line is cut, nor on what
follows them: `classify_quietArguments`.
-/

namespace TableLineage.Formula

open TableLineage.Text

structure Quiet (text : List Char) : Prop where
  uncut : ∀ c ∈ text, c ∉ cutters
  no_lineComment : ¬ ['/', '/'] <:+: text
  no_blockComment : ¬ ['/', '*'] <:+: text
  paired : text.count '"' % 2 = 0

theorem Doubled.paired {body : List Char} (h : Doubled body) : body.count '"' % 2 = 0 := by
  induction h with
  | nil => rfl
  | plain hc _ ih => rwa [List.count_cons_of_ne hc]
  | pair _ ih =>
      rw [List.count_cons_self, List.count_cons_self]
      omega

theorem Dotted.not_mem {part afterDot : Char → Bool} {tail : List Char} {c : Char}
    (h : Dotted part afterDot tail) (hpart : part c = false) (hdot : c ≠ '.') : c ∉ tail := by
  induction h with
  | nil => exact List.not_mem_nil
  | part hd _ ih =>
      rw [List.mem_cons, not_or]
      refine ⟨?_, ih⟩
      rintro rfl
      simp [hpart] at hd
  | dot _ _ ih => exact List.not_mem_cons_of_ne_of_not_mem hdot ih

theorem paired_literal {body : List Char} (h : Doubled body) :
    ('"' :: (body ++ ['"'])).count '"' % 2 = 0 := by
  have hbody := h.paired
  simp
  omega

theorem Shape.paired {kind : Kind} {word rest : List Char} (h : Shape kind word rest) :
    word.count '"' % 2 = 0 := by
  have hname {c : Char} {tail : List Char} (hc : c ≠ '"') (htail : '"' ∉ tail) :
      (c :: tail).count '"' % 2 = 0 := by
    rw [List.count_cons_of_ne hc, List.count_eq_zero_of_not_mem htail]
  cases h with
  | leftParen | rightParen | leftSquare | rightSquare | leftBrace | rightBrace => rfl
  | comma | equal | arrow | slash | hash => rfl
  | string hbody _ => exact paired_literal hbody
  | quotedIdentifier hbody _ =>
      rw [List.count_cons_of_ne (by decide)]
      exact paired_literal hbody
  | number hc hdigits =>
      exact hname (ne_of_mem_of_not_mem (by decide) (not_mem_marks (.inl hc))).symm
        (hdigits.1.not_mem (by decide) (by decide))
  | identifier hc htail =>
      exact hname (ne_of_mem_of_not_mem (by decide) (not_mem_marks (.inr hc))).symm
        (htail.1.not_mem (by decide) (by decide))
  | hashIdentifier _ htail => exact hname (by decide) (htail.1.not_mem (by decide) (by decide))
  | other hmarks _ _ _ _ => exact hname (ne_of_mem_of_not_mem (by decide) hmarks).symm (by simp)

theorem Quiet.of_append {word left : List Char} (h : Quiet (word ++ left))
    (hword : word.count '"' % 2 = 0) : Quiet left where
  uncut c hc := h.uncut c (List.mem_append_right _ hc)
  no_lineComment := mt List.infix_append_of_infix_right h.no_lineComment
  no_blockComment := mt List.infix_append_of_infix_right h.no_blockComment
  paired := by
    have hpaired := h.paired
    rw [List.count_append] at hpaired
    omega

theorem Quiet.complete {text : List Char} (h : Quiet text) : Complete text := by
  induction text using step_induction with
  | nil => exact ⟨[], rfl⟩
  | gap piece left hpiece ih =>
      have hpaired : piece.count '"' % 2 = 0 := by
        cases hpiece with
        | blank hc =>
            rw [List.count_eq_zero_of_not_mem]
            exact mt List.mem_singleton.mp
              (ne_of_mem_of_not_mem (by decide) (not_mem_marks_of_gapBlank hc))
        | @lineComment body _ _ _ => exact absurd ⟨[], body ++ left, rfl⟩ h.no_lineComment
        | @blockComment body _ _ =>
            exact absurd ⟨[], body ++ ['*', '/'] ++ left, by simp⟩ h.no_blockComment
      exact (ih (h.of_append hpaired)).gapPiece hpiece
  | token kind word left hword ih => exact (ih (h.of_append hword.paired)).shape hword
  | unclosed what tail hopen =>
      have hpaired := h.paired
      cases hopen with
      | string hbody =>
          have hbody := hbody.paired
          rw [List.count_cons_self] at hpaired
          omega
      | quotedIdentifier hbody =>
          have hbody := hbody.paired
          rw [List.count_cons_of_ne (by decide), List.count_cons_self] at hpaired
          omega
      | @comment body _ => exact absurd ⟨[], body, rfl⟩ h.no_blockComment

theorem Gap.of_no_lineComment {gap rest : List Char} (h : Gap gap rest)
    (absent : ¬ ['/', '/'] <:+: gap) (rest' : List Char) : Gap gap rest' := by
  induction h with
  | nil => exact .nil
  | @cons piece gap rest hpiece _ ih =>
      refine .cons ?_ (ih (mt List.infix_append_of_infix_right absent))
      cases hpiece with
      | blank hc => exact .blank hc
      | @lineComment body _ _ _ => exact absurd ⟨[], body ++ gap, rfl⟩ absent
      | blockComment hbody => exact .blockComment hbody

theorem Lexes.final_gap {text gap : List Char} {line : TokenLine} (h : Lexes text line)
    (hending : line.ending = .complete gap) : Gap gap [] := by
  induction h with
  | complete hgap =>
      cases hending
      exact hgap
  | unclosed => contradiction
  | token _ _ _ ih => exact ih hending

/-- The tokens of a quiet text separate nothing, and the gap at its end is closed. -/
theorem Quiet.exists_line {text : List Char} (h : Quiet text) :
    ∃ tokens gap, Lexes text ⟨tokens, .complete gap⟩ ∧
      (∀ token ∈ tokens, token.kind.cuts = false) ∧ ∀ rest, Gap gap rest := by
  obtain ⟨gap, hending⟩ := h.complete
  have hlexes := lexes_tokenLine text
  have hline : tokenLine text = ⟨(tokenLine text).tokens, .complete gap⟩ := by
    rw [← hending]
  have hwritten : (tokenLine text).tokens.flatMap Token.written ++ gap = text := by
    rw [hline] at hlexes
    exact hlexes.written
  refine ⟨_, gap, hline ▸ hlexes, ?_, ?_⟩
  · intro token htoken
    obtain ⟨rest, hshape⟩ := hlexes.exists_shape htoken
    by_contra hcuts
    obtain ⟨c, hc, hword⟩ := hshape.eq_cutter (by simpa using hcuts)
    refine h.uncut c ?_ hc
    rw [← hwritten, List.mem_append, List.mem_flatMap]
    exact .inl ⟨token, htoken, by simp [Token.written, hword]⟩
  · apply (hlexes.final_gap hending).of_no_lineComment
    intro habsent
    apply h.no_lineComment
    rw [← hwritten]
    exact List.infix_append_of_infix_right habsent

theorem Quiet.not_mem {text : List Char} (h : Quiet text) {c : Char} (hc : c ∈ cutters) :
    c ∉ text :=
  fun hmem => h.uncut c hmem hc

section Separators

variable {first : List Char} (hfirst : Quiet first) (rest : List Char)

include hfirst

theorem Quiet.complete_iff {c : Char} {kind : Kind} (hshape : Shape kind [c] rest)
    (hcuts : kind.cuts = true) : Complete (first ++ c :: rest) ↔ Complete rest := by
  obtain ⟨tokens, gap, hlexes, -, hgap⟩ := hfirst.exists_line
  have hline := @tokenLine_cut first rest tokens ⟨kind, gap, [c]⟩ hlexes (hgap _) hshape hcuts
  rw [Complete, ← List.singleton_append, hline]
  rfl

theorem splitPlain_quiet_comma :
    splitPlain (first ++ ',' :: rest) = (splitPlain rest).push first :=
  splitPlain_comma (hfirst.not_mem (by decide)) (hfirst.not_mem (by decide)) rest

theorem splitPlain_quiet_paren :
    splitPlain (first ++ ')' :: rest) = ⟨first, [], ')' :: rest⟩ :=
  splitPlain_paren (hfirst.not_mem (by decide)) (hfirst.not_mem (by decide)) rest

/-- Whether the text behind the comma is complete decides how both texts are cut. -/
theorem splitArguments_quiet_comma :
    splitArguments (first ++ ',' :: rest) = (splitArguments rest).push first := by
  obtain ⟨tokens, gap, hlexes, huncut, hgap⟩ := hfirst.exists_line
  by_cases hrest : Complete rest
  · exact splitArguments_comma hlexes huncut (hgap _) hrest
  · have htext : ¬ Complete (first ++ ',' :: rest) := by
      rwa [hfirst.complete_iff rest .comma rfl]
    rw [splitArguments_of_not_complete htext, splitArguments_of_not_complete hrest,
      splitPlain_quiet_comma hfirst]

theorem splitArguments_quiet_paren :
    splitArguments (first ++ ')' :: rest) = ⟨first, [], ')' :: rest⟩ := by
  obtain ⟨tokens, gap, hlexes, huncut, hgap⟩ := hfirst.exists_line
  by_cases hrest : Complete rest
  · exact splitArguments_paren hlexes huncut (hgap _) hrest
  · have htext : ¬ Complete (first ++ ')' :: rest) := by
      rwa [hfirst.complete_iff rest .rightParen rfl]
    rw [splitArguments_of_not_complete htext, splitPlain_quiet_paren hfirst]

end Separators

/-! ## Main result -/

def Call.plain (name inside : List Char) : Call := ⟨name, splitPlain inside⟩

theorem Call.spans_plain (name inside : List Char) :
    (Call.plain name inside).spans =
      plainSpans (byteSize name + 1) (byteSize name + 1) inside := by
  have hspans := @plainSpans_eq inside [] (byteSize name + 1) (byteSize name + 1) rfl
  rw [Arguments.extend_nil] at hspans
  exact hspans.symm

theorem classify_quietArguments (expression : List (List Char))
    (line lhs name first second tail : List Char) (hline : expression[1]? = some line)
    (source : trimmed name = databaseSource) (hfirst : Quiet first) (hsecond : Quiet second) :
    (CallLine line lhs name (first ++ ',' :: (second ++ ',' :: tail)) →
      ∃ call, classify expression = .ok call ∧
        ∀ found ∈ [call, Call.plain name (first ++ ',' :: (second ++ ',' :: tail))],
          found.argument? 0 = some first ∧ found.argument? 1 = some second ∧
          found.textAfter? 1 = some tail ∧ found.isDirectImport = false) ∧
    (CallLine line lhs name (first ++ ',' :: (second ++ ')' :: tail)) →
      ∃ call, classify expression = .ok call ∧
        ∀ found ∈ [call, Call.plain name (first ++ ',' :: (second ++ ')' :: tail))],
          found.arguments.all = [first, second] ∧ found.isDirectImport = true ∧
          found.textAfter? 1 = none) ∧
    ∀ inside, (Call.plain name inside).spans =
      plainSpans (byteSize name + 1) (byteSize name + 1) inside := by
  refine ⟨?_, ?_, Call.spans_plain name⟩
  · intro hcall
    refine ⟨_, classify_eq_ok_iff.mpr ⟨line, lhs, name, _, hline, hcall, source, rfl⟩, ?_⟩
    have hpushed (arguments : Arguments) (hwritten : arguments.written = tail) :
        let found : Call := ⟨name, (arguments.push second).push first⟩
        found.argument? 0 = some first ∧ found.argument? 1 = some second ∧
          found.textAfter? 1 = some tail ∧ found.isDirectImport = false := by
      refine ⟨rfl, rfl, congrArg some hwritten, ?_⟩
      simp [Call.isDirectImport, Call.separatorCount, Arguments.push, Arguments.all]
    rw [List.forall_mem_cons, List.forall_mem_singleton, Call.plain,
      splitArguments_quiet_comma hfirst, splitArguments_quiet_comma hsecond,
      splitPlain_quiet_comma hfirst, splitPlain_quiet_comma hsecond]
    exact ⟨hpushed _ (splitArguments_written tail), hpushed _ (splitPlain_written tail)⟩
  · intro hcall
    refine ⟨_, classify_eq_ok_iff.mpr ⟨line, lhs, name, _, hline, hcall, source, rfl⟩, ?_⟩
    rw [List.forall_mem_cons, List.forall_mem_singleton, Call.plain,
      splitArguments_quiet_comma hfirst, splitArguments_quiet_paren hsecond,
      splitPlain_quiet_comma hfirst, splitPlain_quiet_paren hsecond]
    exact ⟨⟨rfl, rfl, rfl⟩, rfl, rfl, rfl⟩

/-- The tails end inside a literal and inside a comment. -/
theorem classify_quietArguments_open :
    (∃ call, classify ["let".toList, "S=Sql.Database(\"é\"\"\", /\"d\",\"x),".toList] = .ok call ∧
      call.argument? 0 = some "\"é\"\"\"".toList ∧ call.argument? 1 = some " /\"d\"".toList ∧
      call.textAfter? 1 = some "\"x),".toList ∧ call.isDirectImport = false) ∧
    ∃ call, classify ["let".toList, "S=Sql.Database(\"é\"\"\", /\"d\")/*,(".toList] = .ok call ∧
      call.arguments.all = ["\"é\"\"\"".toList, " /\"d\"".toList] ∧
      call.isDirectImport = true ∧ call.textAfter? 1 = none := by
  have hsource : trimmed "Sql.Database".toList = databaseSource := by decide +kernel
  have hhost : Quiet "\"é\"\"\"".toList := ⟨by simp [cutters], by decide, by decide, by decide⟩
  have hdatabase : Quiet " /\"d\"".toList := ⟨by simp [cutters], by decide, by decide, by decide⟩
  obtain ⟨call, hcall, hkept⟩ := (classify_quietArguments
    ["let".toList, "S=Sql.Database(\"é\"\"\", /\"d\",\"x),".toList] _ "S".toList _ _ _
    "\"x),".toList rfl hsource hhost hdatabase).1 ⟨by decide, by decide, by decide⟩
  obtain ⟨call', hcall', hkept'⟩ := (classify_quietArguments
    ["let".toList, "S=Sql.Database(\"é\"\"\", /\"d\")/*,(".toList] _ "S".toList _ _ _ "/*,(".toList
    rfl hsource hhost hdatabase).2.1 ⟨by decide, by decide, by decide⟩
  exact ⟨⟨call, hcall, hkept call List.mem_cons_self⟩,
    call', hcall', hkept' call' List.mem_cons_self⟩

end TableLineage.Formula
