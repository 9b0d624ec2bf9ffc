import TableLineage.Proofs.Formula.Arguments
import TableLineage.Proofs.Formula.Listing
import TableLineage.Proofs.Text.Letter
import TableLineage.Proofs.Text.Split

/-!
# Classification of call lines

`classify_tiles`: which lines are accepted, and how an accepted call lies in
its line.  The arguments are cut from the text behind the first parenthesis;
the spans, which are found in the text of the whole call, name the same
pieces.
-/

namespace TableLineage.Formula

open TableLineage.Text

theorem not_mem_marks_of_isBlank {c : Char} (h : isBlank c = true) : c ∉ marks :=
  not_mem_of_class (by decide) h

/-- The text is read up to a group that is opened by its first parenthesis, and from there on
like the line `inside`. -/
def OpensGroup (inside : TokenLine) (text : List Char) : Prop :=
  ∃ before gap,
    Lexes text ⟨before ++ ⟨.leftParen, gap, ['(']⟩ :: inside.tokens, inside.ending⟩ ∧
      ∀ token ∈ before, token.kind ≠ .leftParen

theorem opensGroup_paren (inside : List Char) :
    OpensGroup (tokenLine inside) ('(' :: inside) :=
  ⟨[], [], @Lexes.token ⟨.leftParen, [], ['(']⟩ _ _ .nil .leftParen (lexes_tokenLine inside),
    by simp⟩

theorem OpensGroup.word {inside : TokenLine} {kind : Kind} {word rest : List Char}
    (h : OpensGroup inside rest) (hshape : Shape kind word rest) (hkind : kind ≠ .leftParen) :
    OpensGroup inside (word ++ rest) := by
  obtain ⟨before, gap, hlexes, hbefore⟩ := h
  refine ⟨⟨kind, [], word⟩ :: before, gap, ?_, ?_⟩
  · exact @Lexes.token ⟨kind, [], word⟩ _ _ .nil hshape hlexes
  · exact List.forall_mem_cons.mpr ⟨hkind, hbefore⟩

theorem OpensGroup.gapPiece {inside : TokenLine} {piece rest : List Char}
    (h : OpensGroup inside rest) (hpiece : GapPiece piece rest) :
    OpensGroup inside (piece ++ rest) := by
  obtain ⟨before, gap, hlexes, hbefore⟩ := h
  have hwiden := hlexes.widen hpiece
  cases before with
  | nil => exact ⟨[], piece ++ gap, hwiden, by simp⟩
  | cons token before =>
      obtain ⟨htoken, hbefore⟩ := List.forall_mem_cons.mp hbefore
      exact ⟨{ token with gap := piece ++ token.gap } :: before, gap, hwiden,
        List.forall_mem_cons.mpr ⟨htoken, hbefore⟩⟩

/-- Blanks of the formula language belong to gaps; any other blank is a token of its own. -/
theorem OpensGroup.blanks {inside : TokenLine} {blanks rest : List Char}
    (h : OpensGroup inside rest) (hblanks : AllBlank blanks) :
    OpensGroup inside (blanks ++ rest) := by
  induction blanks with
  | nil => exact h
  | cons c blanks ih =>
      obtain ⟨hc, hblanks⟩ := List.forall_mem_cons.mp hblanks
      by_cases hgap : c ∈ [' ', '\t', '\r', '\n']
      · exact (ih hblanks).gapPiece (.blank hgap)
      · have hunderscore : c ≠ '_' := by
          rintro rfl
          exact absurd hc (by decide)
        exact (ih hblanks).word
          (.other (not_mem_marks_of_isBlank hc) hgap (isAsciiDigit_of_isBlank hc)
            (isLetter_of_isBlank hc) hunderscore)
          (by decide)

theorem databaseSource_shape {blanks inside : List Char} (hblanks : AllBlank blanks) :
    Shape .identifier databaseSource.toList (blanks ++ '(' :: inside) := by
  have hname : spanAhead inIdentifier "ql.Database".toList = ("ql.Database".toList, []) := by
    decide
  refine .identifier (.inl (by decide)) ⟨(nameTail_of_spanAhead hname).2.1, ?_⟩
  cases blanks with
  | nil =>
      rw [List.nil_append, continues_cons_iff]
      simp [dottedPart]
      decide
  | cons c blanks =>
      have hc : isBlank c = true := hblanks c List.mem_cons_self
      have hunderscore : c ≠ '_' := by
        rintro rfl
        exact absurd hc (by decide)
      have hdot : c ≠ '.' := by
        rintro rfl
        exact absurd hc (by decide)
      rw [List.cons_append, continues_cons_iff]
      simp [dottedPart, isNamePart, isLetterOrNumeric_of_isBlank hc, hunderscore, hdot]

theorem opensGroup_databaseSource {name : List Char} (hname : trimmed name = databaseSource)
    (inside : List Char) : OpensGroup (tokenLine inside) (name ++ '(' :: inside) := by
  obtain ⟨front, back, heq, hfront, hback⟩ := exists_blanks_trim name
  have htrim : trim name = databaseSource.toList := by
    rw [← hname, trimmed, String.toList_ofList]
  rw [heq, htrim, List.append_assoc, List.append_assoc]
  exact (((opensGroup_paren inside).blanks hback).word (databaseSource_shape hback)
    (by decide)).blanks hfront

theorem OpensGroup.front_written {name inside : List Char} {before : List Token}
    {gap : List Char}
    (h : Lexes (name ++ '(' :: inside) ⟨before ++ ⟨.leftParen, gap, ['(']⟩ ::
      (tokenLine inside).tokens, (tokenLine inside).ending⟩) :
    before.flatMap Token.written ++ gap = name := by
  have hinside := tokenLine_written inside
  have hwritten := h.written
  rw [TokenLine.written] at hinside hwritten
  have hcancel : (before.flatMap Token.written ++ gap) ++ ('(' :: inside) =
      name ++ ('(' :: inside) := by
    rw [← hwritten]
    simp [Token.written, hinside]
  exact List.append_cancel_right hcancel

theorem dropWhile_locateFrom {before : List Token} (opening : Token) (inside : List Token)
    (hbefore : ∀ token ∈ before, token.kind ≠ .leftParen) (hopening : opening.kind = .leftParen)
    (offset : Nat) :
    (locateFrom offset (before ++ opening :: inside)).dropWhile (·.token.kind ≠ .leftParen) =
      locateFrom (offset + byteSize (before.flatMap Token.written)) (opening :: inside) := by
  rw [locateFrom_append, List.dropWhile_append_of_pos]
  · simp [locateFrom, hopening]
  · intro located hlocated
    obtain ⟨first, last, hsplit, -⟩ := mem_locateFrom hlocated
    simpa using hbefore located.token (by simp [hsplit])

/-- The tokens behind the first parenthesis of a call are those of the text behind it. -/
theorem exists_opening {name : List Char} (hname : trimmed name = databaseSource)
    (inside : List Char) :
    ∃ opening,
      (tokenLine (name ++ '(' :: inside)).located.dropWhile (·.token.kind ≠ .leftParen) =
        opening :: locateFrom (byteSize name + 1) (tokenLine inside).tokens ∧
      opening.stop = byteSize name + 1 := by
  obtain ⟨before, gap, hlexes, hbefore⟩ := opensGroup_databaseSource hname inside
  have hstop : 0 + byteSize (before.flatMap Token.written) + byteSize gap + byteSize ['('] =
      byteSize name + 1 := by
    rw [← OpensGroup.front_written hlexes, byteSize_leftParen]
    simp
  rw [tokenLine_of_lexes hlexes, TokenLine.located, dropWhile_locateFrom _ _ hbefore rfl,
    locateFrom]
  dsimp only
  rw [hstop]
  exact ⟨_, rfl, rfl⟩

theorem ending_of_call {name : List Char} (hname : trimmed name = databaseSource)
    (inside : List Char) :
    (tokenLine (name ++ '(' :: inside)).ending = (tokenLine inside).ending := by
  obtain ⟨before, gap, hlexes, -⟩ := opensGroup_databaseSource hname inside
  rw [tokenLine_of_lexes hlexes]

theorem argumentSpans?_call {name : List Char} (hname : trimmed name = databaseSource)
    (hparen : '(' ∉ name) (inside : List Char) :
    argumentSpans? (name ++ '(' :: inside) =
      some (spansFrom (byteSize name + 1) (splitArguments inside).all) := by
  have hends := ending_of_call hname inside
  unfold argumentSpans?
  dsimp only
  -- The call and the text inside its group end alike, so both are cut by the same means.
  cases hending : (tokenLine inside).ending with
  | complete final =>
      obtain ⟨opening, hopening, hstop⟩ := exists_opening hname inside
      have hsize : byteSize (name ++ '(' :: inside) = byteSize name + 1 + byteSize inside := by
        rw [← List.singleton_append, byteSize_append, byteSize_append, byteSize_leftParen,
          Nat.add_assoc]
      rw [hends, hending, hopening]
      dsimp only
      rw [hstop, hsize]
      exact congrArg some (tokenSpans_splitTokens rfl hending (byteSize name + 1))
  | unclosed what tailGap tail =>
      have hsplit : splitOnce '(' (name ++ '(' :: inside) = some (name, inside) :=
        splitOnce_eq_some_iff.mpr ⟨rfl, hparen⟩
      rw [hends, hending, hsplit]
      exact congrArg some (plainSpans_splitPlain hending (byteSize name + 1))

/-- The parts of a line that assigns a call. -/
structure CallLine (line lhs name inside : List Char) : Prop where
  line_eq : line = lhs ++ '=' :: (name ++ '(' :: inside)
  lhs_free : '=' ∉ lhs
  name_free : '(' ∉ name

/-- A line without an assignment, or without a group behind it. -/
def NoCall (line : List Char) : Prop :=
  '=' ∉ line ∨ ∃ lhs right, line = lhs ++ '=' :: right ∧ '=' ∉ lhs ∧ '(' ∉ right

theorem callOfLine_of_callLine {line lhs name inside : List Char}
    (h : CallLine line lhs name inside) :
    callOfLine line =
      if trimmed name = databaseSource then .ok ⟨name, splitArguments inside⟩
      else .error (.otherSource (trimmed name)) := by
  have hequal : splitOnce '=' line = some (lhs, name ++ '(' :: inside) :=
    splitOnce_eq_some_iff.mpr ⟨h.line_eq, h.lhs_free⟩
  have hparen : splitOnce '(' (name ++ '(' :: inside) = some (name, inside) :=
    splitOnce_eq_some_iff.mpr ⟨rfl, h.name_free⟩
  rw [callOfLine, hequal]
  dsimp only
  rw [hparen]

theorem callOfLine_of_no_assignment {line : List Char} (h : '=' ∉ line) :
    callOfLine line = .error (.noAssignment (trimmed line)) := by
  rw [callOfLine, splitOnce_eq_none_iff.mpr h]

theorem callOfLine_of_no_group {line lhs right : List Char} (hline : line = lhs ++ '=' :: right)
    (hlhs : '=' ∉ lhs) (h : '(' ∉ right) :
    callOfLine line = .error (.noCall (trimmed right)) := by
  rw [callOfLine, splitOnce_eq_some_iff.mpr ⟨hline, hlhs⟩]
  dsimp only
  rw [splitOnce_eq_none_iff.mpr h]

theorem callOfLine_of_noCall {line : List Char} (h : NoCall line) :
    ∃ refusal, callOfLine line = .error refusal ∧ refusal.isOtherSource = false := by
  rcases h with hequal | ⟨lhs, right, hline, hlhs, hparen⟩
  · exact ⟨_, callOfLine_of_no_assignment hequal, rfl⟩
  · exact ⟨_, callOfLine_of_no_group hline hlhs hparen, rfl⟩

theorem noCall_or_callLine (line : List Char) :
    NoCall line ∨ ∃ lhs name inside, CallLine line lhs name inside := by
  cases hequal : splitOnce '=' line with
  | none => exact .inl (.inl (splitOnce_eq_none_iff.mp hequal))
  | some parts =>
      obtain ⟨hline, hlhs⟩ := splitOnce_eq_some_iff.mp hequal
      cases hparen : splitOnce '(' parts.2 with
      | none => exact .inl (.inr ⟨parts.1, parts.2, hline, hlhs, splitOnce_eq_none_iff.mp hparen⟩)
      | some group =>
          obtain ⟨hright, hname⟩ := splitOnce_eq_some_iff.mp hparen
          exact .inr ⟨parts.1, group.1, group.2, by rw [hline, hright], hlhs, hname⟩

theorem callOfLine_refused_iff {line : List Char} :
    (∃ refusal, callOfLine line = .error refusal ∧ refusal.isOtherSource = false) ↔
      NoCall line := by
  refine ⟨?_, callOfLine_of_noCall⟩
  rintro ⟨refusal, hrefused, hkind⟩
  rcases noCall_or_callLine line with hno | ⟨lhs, name, inside, hcall⟩
  · exact hno
  · rw [callOfLine_of_callLine hcall] at hrefused
    split at hrefused
    · contradiction
    · cases hrefused
      contradiction

theorem callOfLine_eq_otherSource_iff {line : List Char} {found : String} :
    callOfLine line = .error (.otherSource found) ↔
      ∃ lhs name inside, CallLine line lhs name inside ∧ trimmed name = found ∧
        found ≠ databaseSource := by
  constructor
  · intro h
    rcases noCall_or_callLine line with hno | ⟨lhs, name, inside, hcall⟩
    · obtain ⟨refusal, hrefused, hkind⟩ := callOfLine_of_noCall hno
      rw [h] at hrefused
      cases hrefused
      contradiction
    · refine ⟨lhs, name, inside, hcall, ?_⟩
      rw [callOfLine_of_callLine hcall] at h
      split at h
      · contradiction
      · next hother =>
          cases h
          exact ⟨rfl, hother⟩
  · rintro ⟨lhs, name, inside, hcall, rfl, hother⟩
    rw [callOfLine_of_callLine hcall, if_neg hother]

theorem callOfLine_eq_ok_iff {line : List Char} {call : Call} :
    callOfLine line = .ok call ↔
      ∃ lhs name inside, CallLine line lhs name inside ∧ trimmed name = databaseSource ∧
        call = ⟨name, splitArguments inside⟩ := by
  constructor
  · intro h
    rcases noCall_or_callLine line with hno | ⟨lhs, name, inside, hcall⟩
    · obtain ⟨refusal, hrefused, -⟩ := callOfLine_of_noCall hno
      rw [h] at hrefused
      contradiction
    · refine ⟨lhs, name, inside, hcall, ?_⟩
      rw [callOfLine_of_callLine hcall] at h
      split at h
      · next hname =>
          cases h
          exact ⟨hname, rfl⟩
      · contradiction
  · rintro ⟨lhs, name, inside, hcall, hname, rfl⟩
    rw [callOfLine_of_callLine hcall, if_pos hname]

theorem classify_of_line {expression : List (List Char)} {line : List Char}
    (h : expression[1]? = some line) : classify expression = callOfLine line := by
  rw [classify, h]

theorem classify_eq_ok_iff {expression : List (List Char)} {call : Call} :
    classify expression = .ok call ↔
      ∃ line lhs name inside, expression[1]? = some line ∧ CallLine line lhs name inside ∧
        trimmed name = databaseSource ∧ call = ⟨name, splitArguments inside⟩ := by
  cases hline : expression[1]? with
  | none => simp [classify, hline]
  | some line => simp [classify_of_line hline, callOfLine_eq_ok_iff]

theorem Call.text_splitArguments (name inside : List Char) :
    Call.text ⟨name, splitArguments inside⟩ = name ++ '(' :: inside := by
  rw [Call.text, splitArguments_written]

/-- How an accepted call lies in its line: name, arguments and rest are consecutive parts of
it, and every look-up by span is the cut that it names. -/
structure Tiles (line : List Char) (call : Call) : Prop where
  assigned : ∃ lhs, line = lhs ++ '=' :: call.text ∧ '=' ∉ lhs
  text_eq : call.text =
    call.name ++ '(' :: ([','].intercalate call.arguments.all ++ call.arguments.rest)
  name_free : '(' ∉ call.name
  source : call.sourceType = databaseSource
  rest_closes : ∀ c ∈ call.arguments.rest.head?, c ∈ [')', ']', '\x7d']
  count : call.arguments.all.length = call.separatorCount + 1
  direct_iff : call.isDirectImport = true ↔ call.arguments.all.length = 2
  spans_eq : argumentSpans? call.text = some call.spans
  ordered : call.spans.IsChain (fun first second => first.stop + 1 = second.start)
  sliced : ∀ span ∈ call.spans, (slice? call.text span.start span.stop).isSome
  argument_eq : ∀ index, call.argument? index =
    call.spans[index]?.bind fun span => slice? call.text span.start span.stop
  after_none : ∀ index, call.arguments.all.length ≤ index + 1 → call.textAfter? index = none
  after_some : ∀ index, index + 1 < call.arguments.all.length → ∃ after,
    call.textAfter? index = some after ∧ after <:+ line ∧
      after = [','].intercalate (call.arguments.all.drop (index + 1)) ++ call.arguments.rest
  after_eq : ∀ index, call.textAfter? index =
    call.spans[index + 1]?.bind fun span => dropBytes? span.start call.text

theorem Call.text_eq (call : Call) :
    call.text = call.name ++ ['('] ++
      ([','].intercalate call.arguments.all ++ call.arguments.rest) := by
  rw [Call.text, Arguments.written_eq_intercalate]
  simp

theorem Call.slices (call : Call) :
    List.Forall₂ (fun span piece => slice? call.text span.start span.stop = some piece)
      call.spans call.arguments.all := by
  have hslices := slices_spansFrom (call.name ++ ['(']) call.arguments.all call.arguments.rest
  rwa [byteSize_append, byteSize_leftParen, ← Call.text_eq] at hslices

theorem Call.argument?_eq_bind (call : Call) (index : Nat) :
    call.argument? index =
      call.spans[index]?.bind fun span => slice? call.text span.start span.stop := by
  rcases getElem?_of_forall₂ call.slices index with
    ⟨hspan, hpiece⟩ | ⟨span, piece, hspan, hpiece, hslice⟩
  · rw [hspan]
    exact hpiece
  · rw [hspan, Option.bind_some, hslice]
    exact hpiece

theorem Call.isSome_slice? {call : Call} {span : Span} (h : span ∈ call.spans) :
    (slice? call.text span.start span.stop).isSome := by
  obtain ⟨index, hindex⟩ := List.getElem?_of_mem h
  rcases getElem?_of_forall₂ call.slices index with
    ⟨hnone, -⟩ | ⟨found, piece, hfound, -, hslice⟩
  · rw [hindex] at hnone
    contradiction
  · obtain rfl : found = span := Option.some.inj (hfound.symm.trans hindex)
    rw [hslice]
    rfl

theorem Call.dropBytes?_text (call : Call) {index : Nat} {span : Span}
    (h : call.spans[index]? = some span) :
    dropBytes? span.start call.text =
      some ([','].intercalate (call.arguments.all.drop index) ++ call.arguments.rest) := by
  rw [Call.text_eq]
  apply dropBytes?_spansFrom
  rw [byteSize_append, byteSize_leftParen]
  exact h

theorem Call.textAfter?_eq_none {call : Call} {index : Nat}
    (h : call.arguments.all.length ≤ index + 1) : call.textAfter? index = none := by
  have hdrop : call.arguments.others.drop index = [] := by
    apply List.drop_eq_nil_of_le
    simpa [Arguments.all] using h
  rw [Call.textAfter?, hdrop]

theorem Call.textAfter?_eq_some {call : Call} {index : Nat}
    (h : index + 1 < call.arguments.all.length) :
    call.textAfter? index =
      some ([','].intercalate (call.arguments.all.drop (index + 1)) ++ call.arguments.rest) := by
  have hdrop : call.arguments.all.drop (index + 1) = call.arguments.others.drop index := rfl
  rw [hdrop, Call.textAfter?]
  cases hothers : call.arguments.others.drop index with
  | nil =>
      rw [List.drop_eq_nil_iff] at hothers
      simp [Arguments.all] at h
      omega
  | cons first others =>
      simp [Arguments.written_eq_intercalate, Arguments.all]

theorem Call.textAfter?_eq_bind (call : Call) (index : Nat) :
    call.textAfter? index =
      call.spans[index + 1]?.bind fun span => dropBytes? span.start call.text := by
  rcases getElem?_of_forall₂ call.slices (index + 1) with
    ⟨hspan, hpiece⟩ | ⟨span, piece, hspan, hpiece, -⟩
  · rw [hspan, Option.bind_none]
    exact Call.textAfter?_eq_none (List.getElem?_eq_none_iff.mp hpiece)
  · rw [hspan, Option.bind_some, call.dropBytes?_text hspan]
    exact Call.textAfter?_eq_some (List.getElem?_eq_some_iff.mp hpiece).1

theorem Call.suffix_of_textAfter? {call : Call} {index : Nat} {after : List Char}
    (h : call.textAfter? index = some after) : after <:+ call.text := by
  rw [Call.textAfter?_eq_bind] at h
  obtain ⟨span, -, hdrop⟩ := Option.bind_eq_some_iff.mp h
  obtain ⟨before, htext, -⟩ := dropBytes?_eq_some_iff.mp hdrop
  exact ⟨before, htext.symm⟩

theorem tiles_of_callLine {line lhs name inside : List Char}
    (h : CallLine line lhs name inside) (hname : trimmed name = databaseSource) :
    Tiles line ⟨name, splitArguments inside⟩ := by
  have htext := Call.text_splitArguments name inside
  refine {
    assigned := ⟨lhs, by rw [htext]; exact h.line_eq, h.lhs_free⟩
    text_eq := by
      rw [Call.text, Arguments.written_eq_intercalate]
    name_free := h.name_free
    source := hname
    rest_closes := splitArguments_rest inside
    count := rfl
    direct_iff := by
      simp [Call.isDirectImport, Call.separatorCount, Arguments.all]
    spans_eq := by
      rw [htext]
      exact argumentSpans?_call hname h.name_free inside
    ordered := spansFrom_isChain _ _
    sliced := fun _ => Call.isSome_slice?
    argument_eq := Call.argument?_eq_bind _
    after_none := fun _ => Call.textAfter?_eq_none
    after_some := ?_
    after_eq := Call.textAfter?_eq_bind _ }
  intro index hindex
  have hafter := @Call.textAfter?_eq_some ⟨name, splitArguments inside⟩ index hindex
  have hsuffix := Call.suffix_of_textAfter? hafter
  rw [htext] at hsuffix
  refine ⟨_, hafter, hsuffix.trans ?_, rfl⟩
  rw [h.line_eq]
  exact (List.suffix_cons _ _).trans (List.suffix_append _ _)

/-! ## Main result -/

theorem classify_tiles (expression : List (List Char)) :
    ((∃ refusal, classify expression = .error refusal ∧ refusal.isOtherSource = false) ↔
      expression[1]? = none ∨ ∃ line, expression[1]? = some line ∧ NoCall line) ∧
    (∀ found, classify expression = .error (.otherSource found) ↔
      ∃ line lhs name inside, expression[1]? = some line ∧ CallLine line lhs name inside ∧
        trimmed name = found ∧ found ≠ databaseSource) ∧
    ((∃ call, classify expression = .ok call) ↔
      ∃ line lhs name inside, expression[1]? = some line ∧ CallLine line lhs name inside ∧
        trimmed name = databaseSource) ∧
    ∀ call, classify expression = .ok call →
      ∃ line, expression[1]? = some line ∧ Tiles line call := by
  cases hline : expression[1]? with
  | none => simp [classify, hline, Refusal.isOtherSource]
  | some line =>
      rw [classify_of_line hline]
      refine ⟨?_, ?_, ?_, ?_⟩
      · simp [callOfLine_refused_iff]
      · intro found
        simp [callOfLine_eq_otherSource_iff]
      · simp only [callOfLine_eq_ok_iff, Option.some.injEq]
        constructor
        · rintro ⟨call, lhs, name, inside, hcall, hname, -⟩
          exact ⟨line, lhs, name, inside, rfl, hcall, hname⟩
        · rintro ⟨_, lhs, name, inside, rfl, hcall, hname⟩
          exact ⟨_, lhs, name, inside, hcall, hname, rfl⟩
      · intro call hok
        obtain ⟨lhs, name, inside, hcall, hname, rfl⟩ := callOfLine_eq_ok_iff.mp hok
        exact ⟨line, rfl, tiles_of_callLine hcall hname⟩

/-- One line has tokens to go by, the other ends inside a literal. -/
theorem classify_tiles_calls :
    (∃ call, classify ["let".toList, "S = Sql.Database(\"é,\", b)x".toList] = .ok call ∧
      call.arguments.all = ["\"é,\"".toList, " b".toList] ∧
      Tiles "S = Sql.Database(\"é,\", b)x".toList call) ∧
    ∃ call, classify ["let".toList, "S = Sql.Database(é, \"b)x".toList] = .ok call ∧
      call.arguments.all = ["é".toList, " \"b".toList] ∧
      Tiles "S = Sql.Database(é, \"b)x".toList call := by
  have hcomplete : classify ["let".toList, "S = Sql.Database(\"é,\", b)x".toList] =
      .ok ⟨" Sql.Database".toList, ⟨"\"é,\"".toList, [" b".toList], ")x".toList⟩⟩ := by
    decide +kernel
  have hunclosed : classify ["let".toList, "S = Sql.Database(é, \"b)x".toList] =
      .ok ⟨" Sql.Database".toList, ⟨"é".toList, [" \"b".toList], ")x".toList⟩⟩ := by
    decide +kernel
  obtain ⟨line, hline, htiles⟩ := (classify_tiles _).2.2.2 _ hcomplete
  obtain ⟨line', hline', htiles'⟩ := (classify_tiles _).2.2.2 _ hunclosed
  cases hline
  cases hline'
  exact ⟨⟨_, hcomplete, rfl, htiles⟩, _, hunclosed, rfl, htiles'⟩

end TableLineage.Formula
