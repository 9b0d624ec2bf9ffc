import TableLineage.Formula.Scanner
import TableLineage.Proofs.Formula.Lexing

/-!
# Scanners give listings

What a scanner does from its cursor on is determined by the text ahead.  Each
part of it is matched with the reader of lines that does the same on a list of
characters; `scan_eq_listing` sums this up for a run.
-/

namespace TableLineage.Formula

open TableLineage.Text

namespace Scanner

section Ahead

variable {scanner : Scanner} {c : Char} {rest : List Char}

def ahead (scanner : Scanner) : List Char := scanner.source.drop scanner.current

@[simp] theorem move_zero (scanner : Scanner) : scanner.move 0 = scanner := rfl

@[simp] theorem move_move (scanner : Scanner) (m n : Nat) :
    (scanner.move m).move n = scanner.move (m + n) := by
  simp [move, Nat.add_assoc]

theorem ahead_move (scanner : Scanner) (places : Nat) :
    (scanner.move places).ahead = scanner.ahead.drop places := by
  simp [ahead, move]

theorem ahead_move_of_append {taken left : List Char} (h : scanner.ahead = taken ++ left) :
    (scanner.move taken.length).ahead = left := by
  rw [ahead_move, h, List.drop_left]

theorem ahead_move_one (h : scanner.ahead = c :: rest) : (scanner.move 1).ahead = rest := by
  rw [ahead_move, h, List.drop_one, List.tail_cons]

theorem length_ahead (scanner : Scanner) :
    scanner.ahead.length = scanner.source.length - scanner.current :=
  List.length_drop

theorem isAtEnd_iff : scanner.isAtEnd = true ↔ scanner.ahead = [] := by
  rw [isAtEnd, decide_eq_true_eq, ahead, List.drop_eq_nil_iff]

theorem isAtEnd_of_ahead (h : scanner.ahead = c :: rest) : scanner.isAtEnd = false := by
  rw [← Bool.not_eq_true, isAtEnd_iff, h]
  simp

theorem peek_eq (scanner : Scanner) (places : Nat) :
    scanner.peek places = scanner.ahead.getD places '\x00' := by
  simp [peek, ahead]

theorem advance_of_ahead (h : scanner.ahead = c :: rest) :
    scanner.advance = .ok (scanner.move 1) := by
  rw [advance, isAtEnd_of_ahead h]
  rfl

theorem past?_of_ahead (h : scanner.ahead = c :: rest) :
    scanner.past? c = some (scanner.move 1) := by
  rw [past?, peek_eq, h]
  simp

/-- Not even the end of the text passes for a character other than zero. -/
theorem past?_of_head? (hc : c ≠ '\x00') (h : scanner.ahead.head? ≠ some c) :
    scanner.past? c = none := by
  rw [past?, peek_eq, if_neg]
  cases hahead : scanner.ahead with
  | nil => simpa using Ne.symm hc
  | cons d rest =>
      rw [hahead] at h
      simpa using h

theorem unclosed_move (what : Unclosed) (scanner : Scanner) (places : Nat) :
    (scanner.move places).unclosed what =
      .error (.unclosed what (scanner.offsetAt scanner.start), scanner.move places) := rfl

end Ahead

section Parts

variable {scanner : Scanner} {budget : Nat} {text : List Char}

theorem exists_budget {c : Char} {rest : List Char} (h : (c :: rest).length ≤ budget) :
    ∃ fewer, budget = fewer + 1 ∧ rest.length ≤ fewer := by
  rw [List.length_cons] at h
  exact ⟨budget - 1, by omega, by omega⟩

theorem closeLiteral_eq (hahead : scanner.ahead = text) (h : text.length ≤ budget) :
    closeLiteral budget scanner =
      match literal? text with
      | some (body, _) => .ok (scanner.move body.length)
      | none => (scanner.move text.length).unclosed .literal := by
  fun_induction literal? text generalizing scanner budget with
  | case1 =>
      cases budget with
      | zero => rfl
      | succ budget => rw [closeLiteral, isAtEnd_iff.mpr hahead]; rfl
  | case2 rest ih =>
      obtain ⟨budget, rfl, hbudget⟩ := exists_budget h
      have hsecond := ahead_move_one hahead
      have hrest := ahead_move_one hsecond
      rw [List.length_cons] at hbudget
      rw [closeLiteral, isAtEnd_of_ahead hahead, if_neg Bool.false_ne_true,
        past?_of_ahead hahead]
      dsimp only
      rw [past?_of_ahead hsecond]
      dsimp only
      rw [ih hrest (by omega)]
      cases literal? rest with
      | none => simp [unclosed_move, Nat.add_comm, Nat.add_left_comm]
      | some read => simp [Nat.add_comm, Nat.add_left_comm]
  | case3 rest hpair =>
      obtain ⟨budget, rfl, -⟩ := exists_budget h
      have hrest := ahead_move_one hahead
      have hquote : (scanner.move 1).ahead.head? ≠ some '"' := by
        rw [hrest]
        intro hhead
        obtain ⟨behind, rfl⟩ := List.head?_eq_some_iff.mp hhead
        exact hpair behind rfl rfl
      rw [closeLiteral, isAtEnd_of_ahead hahead, if_neg Bool.false_ne_true,
        past?_of_ahead hahead]
      dsimp only
      rw [past?_of_head? (by decide) hquote]
      rfl
  | case4 c rest _ hc ih =>
      obtain ⟨budget, rfl, hbudget⟩ := exists_budget h
      rw [closeLiteral, isAtEnd_of_ahead hahead, if_neg Bool.false_ne_true,
        past?_of_head? (by decide) (by simpa [hahead] using hc)]
      dsimp only
      rw [advance_of_ahead hahead]
      refine (ih (ahead_move_one hahead) hbudget).trans ?_
      cases literal? rest with
      | none => simp [unclosed_move, Nat.add_comm]
      | some read => simp [Nat.add_comm]

theorem closeComment_eq (hahead : scanner.ahead = text) (h : text.length ≤ budget) :
    closeComment budget scanner =
      match blockComment? text with
      | some (comment, _) => .ok (scanner.move comment.length)
      | none => (scanner.move text.length).unclosed .comment := by
  fun_induction blockComment? text generalizing scanner budget with
  | case1 =>
      cases budget with
      | zero => rfl
      | succ budget => rw [closeComment, isAtEnd_iff.mpr hahead]; rfl
  | case2 rest =>
      obtain ⟨budget, rfl, -⟩ := exists_budget h
      rw [closeComment, isAtEnd_of_ahead hahead, peek_eq, peek_eq, hahead,
        advance_of_ahead hahead]
      exact (advance_of_ahead (ahead_move_one hahead)).trans (by simp)
  | case3 c rest hopen ih =>
      obtain ⟨budget, rfl, hbudget⟩ := exists_budget h
      have hmark : (scanner.peek 0 == '*' && scanner.peek 1 == '/') = false := by
        rw [peek_eq, peek_eq, hahead]
        cases rest with
        | nil => simp
        | cons d rest =>
            have hopen' : ¬ (c = '*' ∧ d = '/') := by
              rintro ⟨hc, rfl⟩
              exact hopen rest hc rfl
            simpa [Classical.not_and_iff_not_or_not, ← imp_iff_not_or] using hopen'
      rw [closeComment, isAtEnd_of_ahead hahead, if_neg Bool.false_ne_true, hmark,
        if_neg Bool.false_ne_true, advance_of_ahead hahead]
      refine (ih (ahead_move_one hahead) hbudget).trans ?_
      cases blockComment? rest with
      | none => simp [unclosed_move, Nat.add_comm]
      | some read => simp [Nat.add_comm]

theorem passLine_eq (hahead : scanner.ahead = text) (h : text.length ≤ budget) :
    passLine budget scanner =
      .ok (scanner.move (text.takeWhile (· != '\n')).length) := by
  induction text generalizing scanner budget with
  | nil =>
      cases budget with
      | zero => rfl
      | succ budget => rw [passLine, isAtEnd_iff.mpr hahead]; rfl
  | cons c rest ih =>
      obtain ⟨budget, rfl, hbudget⟩ := exists_budget h
      rw [passLine, isAtEnd_of_ahead hahead, peek_eq, hahead, Bool.false_or]
      by_cases hc : c = '\n'
      · simp [hc]
      · simp only [List.getD_cons_zero, beq_iff_eq, hc, if_false, advance_of_ahead hahead]
        refine (ih (ahead_move_one hahead) hbudget).trans ?_
        simp [hc, Nat.add_comm]

/-- What is accepted ahead of the cursor does not tell the end of the text from a zero. -/
structure SeesEndAsZero (accepts : Char → Option Char → Bool) : Prop where
  zero : ∀ next, accepts '\x00' next = false
  next : ∀ c, accepts c (some '\x00') = accepts c none

theorem passWhile_eq {accepts : Char → Option Char → Bool} (hends : SeesEndAsZero accepts)
    (hahead : scanner.ahead = text) (h : text.length ≤ budget) :
    passWhile (fun c next => accepts c (some next)) budget scanner =
      .ok (scanner.move (spanAhead accepts text).1.length) := by
  induction text generalizing scanner budget with
  | nil =>
      cases budget with
      | zero => rfl
      | succ budget =>
          rw [passWhile, peek_eq, hahead, List.getD_nil, hends.zero]
          rfl
  | cons c rest ih =>
      obtain ⟨budget, rfl, hbudget⟩ := exists_budget h
      have hnext : accepts (scanner.peek 0) (some (scanner.peek 1)) = accepts c rest.head? := by
        rw [peek_eq, peek_eq, hahead]
        cases rest with
        | nil => exact hends.next c
        | cons d rest => rfl
      rw [passWhile, hnext, spanAhead]
      by_cases hc : accepts c rest.head? = true
      · rw [if_pos hc, if_pos hc, advance_of_ahead hahead]
        refine (ih (ahead_move_one hahead) hbudget).trans ?_
        simp [Nat.add_comm]
      · rw [if_neg hc, if_neg hc]
        rfl

theorem seesEndAsZero_inNumber : SeesEndAsZero inNumber := by
  refine ⟨fun next => by simp [inNumber, isAsciiDigit], fun c => ?_⟩
  have hzero : isAsciiDigit '\x00' = false := by decide
  simp [inNumber, hzero]

theorem seesEndAsZero_inIdentifier : SeesEndAsZero inIdentifier := by
  have hzero : isLetter '\x00' = false ∧ isLetterOrNumeric '\x00' = false := by decide +kernel
  exact ⟨fun next => by simp [inIdentifier, hzero.2], fun c => by simp [inIdentifier, hzero.1]⟩

end Parts

section Tokens

variable {scanner : Scanner} {c : Char} {rest : List Char}

def put (kind : Kind) (word : List Char) (scanner : Scanner) : Scanner :=
  let stop := scanner.current + word.length
  let entry : Entry := ⟨some kind, word, scanner.offsetAt scanner.current, scanner.offsetAt stop⟩
  { scanner with entries := scanner.entries ++ [entry], current := stop }

theorem bind_of_ok {part : Reached} {behind : Scanner} {next : Scanner → Reached}
    (h : part = .ok behind) : part >>= next = next behind := by
  rw [h]
  rfl

def comesTo (scanner : Scanner) : Step → Reached
  | .gap piece _ => .ok (scanner.move piece.length)
  | .token kind word _ => .ok (scanner.put kind word)
  | .unclosed what => (scanner.move scanner.ahead.length).unclosed what

theorem addEntry_move (hstart : scanner.start = scanner.current) {word left : List Char}
    (hahead : scanner.ahead = word ++ left) (ne_nil : word ≠ []) (kind : Kind) :
    (scanner.move word.length).addEntry kind = .ok (scanner.put kind word) := by
  have hlength := scanner.length_ahead
  have hpos := List.length_pos_of_ne_nil ne_nil
  rw [hahead, List.length_append] at hlength
  have hinside : scanner.current + word.length ≤ scanner.source.length := by omega
  have htext : (scanner.source.take (scanner.current + word.length)).drop scanner.current =
      word := by
    rw [List.drop_take, Nat.add_sub_cancel_left]
    exact (congrArg (List.take word.length) hahead).trans List.take_left
  have hinside' : scanner.start ≤ (scanner.move word.length).current ∧
      (scanner.move word.length).current ≤ scanner.source.length :=
    ⟨by rw [hstart]; exact Nat.le_add_right _ _, hinside⟩
  rw [addEntry]
  refine (if_pos hinside').trans ?_
  simp [move, put, hstart, htext, offsetAt]

theorem addEntry_move_one (hstart : scanner.start = scanner.current)
    (hahead : scanner.ahead = c :: rest) (kind : Kind) :
    (scanner.move 1).addEntry kind = .ok (scanner.put kind [c]) := by
  have hword : scanner.ahead = [c] ++ rest := hahead
  exact addEntry_move hstart hword (List.cons_ne_nil _ _) kind

theorem length_le_of_ahead {text : List Char} (h : scanner.ahead = text) :
    text.length ≤ scanner.source.length := by
  rw [← h, length_ahead]
  exact Nat.sub_le _ _

theorem addLiteral_eq (hstart : scanner.start = scanner.current) {opening : List Char}
    (hahead : scanner.ahead = opening ++ rest) (ne_nil : opening ≠ []) (kind : Kind) :
    (scanner.move opening.length).addLiteral kind =
      scanner.comesTo (literalStep kind opening rest) := by
  have hrest := ahead_move_of_append hahead
  have hclose := closeLiteral_eq hrest (length_le_of_ahead hrest)
  rw [addLiteral, literalStep]
  cases hread : literal? rest with
  | none =>
      rw [hread] at hclose
      refine (congrArg (· >>= _) hclose).trans ?_
      simp only [comesTo, hahead, unclosed_move, move_move, List.length_append]
      rfl
  | some read =>
      rw [hread] at hclose
      rw [bind_of_ok hclose]
      obtain ⟨inner, -, hbody, htext, -⟩ := literal?_sound hread
      have hword : scanner.ahead = (opening ++ read.1) ++ read.2 := by
        rw [hahead, htext, hbody]
        simp
      have hadd := addEntry_move hstart hword (by simp [ne_nil]) kind
      simpa [comesTo] using hadd

theorem addNumber_eq (hstart : scanner.start = scanner.current)
    (hahead : scanner.ahead = c :: rest) :
    (scanner.move 1).addNumber =
      .ok (scanner.put .number (c :: (spanAhead inNumber rest).1)) := by
  have hrest := ahead_move_one hahead
  rw [addNumber, bind_of_ok (passWhile_eq seesEndAsZero_inNumber hrest (length_le_of_ahead hrest))]
  have htext : rest = (spanAhead inNumber rest).1 ++ (spanAhead inNumber rest).2 :=
    (digits_of_spanAhead rfl).1
  have hword : scanner.ahead =
      (c :: (spanAhead inNumber rest).1) ++ (spanAhead inNumber rest).2 := by
    rw [hahead, List.cons_append, ← htext]
  simpa [Nat.add_comm] using addEntry_move hstart hword (List.cons_ne_nil _ _) .number

theorem addIdentifier_eq (hstart : scanner.start = scanner.current)
    (hahead : scanner.ahead = c :: rest) :
    (scanner.move 1).addIdentifier = scanner.comesTo (identifierStep c rest) := by
  have hrest := ahead_move_one hahead
  rw [addIdentifier,
    bind_of_ok (passWhile_eq seesEndAsZero_inIdentifier hrest (length_le_of_ahead hrest))]
  have htext : rest = (spanAhead inIdentifier rest).1 ++ (spanAhead inIdentifier rest).2 :=
    (nameTail_of_spanAhead rfl).1
  have hword : scanner.ahead =
      (c :: (spanAhead inIdentifier rest).1) ++ (spanAhead inIdentifier rest).2 := by
    rw [hahead, List.cons_append, ← htext]
  simpa [comesTo, identifierStep, Nat.add_comm] using
    addEntry_move hstart hword (List.cons_ne_nil _ _) .identifier

theorem addEqual_eq (hstart : scanner.start = scanner.current)
    (hahead : scanner.ahead = '=' :: rest) :
    (scanner.move 1).addEqual = scanner.comesTo (equalStep rest) := by
  have hrest := ahead_move_one hahead
  rw [addEqual]
  by_cases hhead : rest.head? = some '>'
  · obtain ⟨left, rfl⟩ := List.head?_eq_some_iff.mp hhead
    rw [past?_of_ahead hrest]
    have hword : scanner.ahead = ['=', '>'] ++ left := hahead
    exact addEntry_move hstart hword (List.cons_ne_nil _ _) .other
  · rw [past?_of_head? (by decide) (hrest ▸ hhead), equalStep_of_head? hhead]
    exact addEntry_move_one hstart hahead .equal

theorem passComment_eq (hstart : scanner.start = scanner.current)
    (hahead : scanner.ahead = '/' :: rest) :
    (scanner.move 1).passComment = scanner.comesTo (slashStep rest) := by
  have hrest := ahead_move_one hahead
  rw [passComment]
  by_cases hslash : rest.head? = some '/'
  · obtain ⟨left, rfl⟩ := List.head?_eq_some_iff.mp hslash
    have hleft := ahead_move_one hrest
    rw [past?_of_ahead hrest]
    refine (passLine_eq hleft (length_le_of_ahead hleft)).trans ?_
    have hplaces (n : Nat) : 1 + 1 + n = n + 1 + 1 := by omega
    simp only [slashStep, comesTo, List.span_eq_takeWhile_dropWhile, move_move, List.length_cons,
      hplaces]
  · rw [past?_of_head? (by decide) (hrest ▸ hslash)]
    by_cases hstar : rest.head? = some '*'
    · obtain ⟨left, rfl⟩ := List.head?_eq_some_iff.mp hstar
      have hleft := ahead_move_one hrest
      rw [past?_of_ahead hrest]
      refine (closeComment_eq hleft (length_le_of_ahead hleft)).trans ?_
      have hplaces (n : Nat) : 1 + 1 + n = n + 1 + 1 := by omega
      rw [slashStep]
      cases hread : blockComment? left with
      | none => simp only [comesTo, hahead, move_move, List.length_cons, hplaces]
      | some read => simp only [comesTo, move_move, List.length_cons, hplaces]
    · rw [past?_of_head? (by decide) (hrest ▸ hstar), slashStep_of_head? hslash hstar]
      exact addEntry_move_one hstart hahead .other

theorem addHash_eq (hstart : scanner.start = scanner.current)
    (hahead : scanner.ahead = '#' :: rest) :
    (scanner.move 1).addHash = scanner.comesTo (hashStep rest) := by
  have hrest := ahead_move_one hahead
  rw [addHash]
  by_cases hquote : rest.head? = some '"'
  · obtain ⟨left, rfl⟩ := List.head?_eq_some_iff.mp hquote
    rw [past?_of_ahead hrest]
    have hword : scanner.ahead = ['#', '"'] ++ left := hahead
    exact addLiteral_eq hstart hword (List.cons_ne_nil _ _) _
  · have hletter : isLetter ((scanner.move 1).peek 0) = rest.head?.any isLetter := by
      rw [peek_eq, hrest]
      cases rest with
      | nil => decide +kernel
      | cons d rest => rfl
    rw [past?_of_head? (by decide) (hrest ▸ hquote), hletter]
    have hstep : hashStep rest =
        if rest.head?.any isLetter then identifierStep '#' rest
        else .token .other ['#'] rest := by
      unfold hashStep
      split
      · simp at hquote
      · rfl
    rw [hstep]
    dsimp only
    split
    · exact addIdentifier_eq hstart hahead
    · exact addEntry_move_one hstart hahead .other

theorem scanToken_eq (hstart : scanner.start = scanner.current)
    (hahead : scanner.ahead = c :: rest) :
    scanner.scanToken = scanner.comesTo (step c rest) := by
  have hpeek : scanner.peek 0 = c := by
    rw [peek_eq, hahead]
    rfl
  rw [scanToken, hpeek, bind_of_ok (advance_of_ahead hahead)]
  by_cases hmarks : c ∈ marks
  · simp only [marks, List.mem_cons, List.not_mem_nil, or_false] at hmarks
    rcases hmarks with rfl | rfl | rfl | rfl | rfl | rfl | rfl | rfl | rfl | rfl | rfl
    iterate 7 exact addEntry_move_one hstart hahead _
    · exact addEqual_eq hstart hahead
    · exact passComment_eq hstart hahead
    · have hword : scanner.ahead = ['"'] ++ rest := hahead
      exact addLiteral_eq hstart hword (List.cons_ne_nil _ _) _
    · exact addHash_eq hstart hahead
  · rw [step_of_not_mem_marks hmarks, plainStep]
    split
    iterate 11 exact absurd (by decide) hmarks
    split
    · rfl
    · split
      · exact addNumber_eq hstart hahead
      · split
        · exact addIdentifier_eq hstart hahead
        · exact addEntry_move_one hstart hahead .other

end Tokens

end Scanner

/-! ## Offsets in a line -/

theorem entries_widen (offset : Nat) (gap : List Char) (line : TokenLine) :
    (locateFrom offset (line.widen gap).tokens).map Located.entry =
      (locateFrom (offset + byteSize gap) line.tokens).map Located.entry := by
  rcases line with ⟨_ | ⟨token, tokens⟩, _ | ⟨what, before, tail⟩⟩ <;>
    simp [TokenLine.widen, locateFrom, Located.entry, Nat.add_assoc]

theorem failure?_widen (gap : List Char) (line : TokenLine) :
    (line.widen gap).failure? =
      line.failure?.map fun (what, offset) => (what, byteSize gap + offset) := by
  rcases line with ⟨_ | ⟨token, tokens⟩, _ | ⟨what, before, tail⟩⟩ <;>
    simp [TokenLine.widen, TokenLine.failure?, TokenLine.tokenBytes, Token.written, Nat.add_assoc]

theorem failure?_push (token : Token) (line : TokenLine) :
    (line.push token).failure? =
      line.failure?.map fun (what, offset) => (what, byteSize token.written + offset) := by
  rcases line with ⟨tokens, _ | ⟨what, before, tail⟩⟩ <;>
    simp [TokenLine.push, TokenLine.failure?, TokenLine.tokenBytes, Nat.add_assoc]

/-! ## Runs -/

namespace Scanner

/-- A run comes to the end of the line, or stops at what the line leaves open. -/
def RunsTo (source : List Char) (entries : List Entry) (offset : Nat) (line : TokenLine)
    (reached : Reached) : Prop :=
  ∃ start current,
    let added := (locateFrom offset line.tokens).map Located.entry
    let scanner : Scanner := ⟨source, entries ++ added, start, current⟩
    reached =
      match line.failure? with
      | none => .ok scanner
      | some (what, before) => .error (.unclosed what (offset + before), scanner)

section Runs

variable {source text : List Char} {entries : List Entry} {offset budget : Nat}
  {line : TokenLine} {reached : Reached} {scanner : Scanner}

theorem RunsTo.widen {gap : List Char}
    (h : RunsTo source entries (offset + byteSize gap) line reached) :
    RunsTo source entries offset (line.widen gap) reached := by
  obtain ⟨start, current, hreached⟩ := h
  refine ⟨start, current, ?_⟩
  rw [hreached, entries_widen, failure?_widen]
  cases line.failure? with
  | none => rfl
  | some failure => simp [Nat.add_assoc]

theorem RunsTo.push {kind : Kind} {word : List Char}
    (h : RunsTo source (entries ++ [⟨some kind, word, offset, offset + byteSize word⟩])
      (offset + byteSize word) line reached) :
    RunsTo source entries offset (line.push ⟨kind, [], word⟩) reached := by
  obtain ⟨start, current, hreached⟩ := h
  refine ⟨start, current, ?_⟩
  rw [hreached, failure?_push]
  cases line.failure? with
  | none => simp [TokenLine.push, locateFrom, Located.entry]
  | some failure =>
      simp [TokenLine.push, locateFrom, Located.entry, Token.written, Nat.add_assoc]

theorem offsetAt_add {taken left : List Char} (h : scanner.ahead = taken ++ left) :
    scanner.offsetAt (scanner.current + taken.length) =
      scanner.offsetAt scanner.current + byteSize taken := by
  have htaken : (scanner.source.drop scanner.current).take taken.length = taken :=
    (congrArg (List.take taken.length) h).trans List.take_left
  rw [offsetAt, List.take_add, htaken, byteSize_append]
  rfl

theorem scanFrom_runsTo (hahead : scanner.ahead = text) (h : text.length ≤ budget) :
    RunsTo scanner.source scanner.entries (scanner.offsetAt scanner.current) (tokenLine text)
      (scanFrom budget scanner) := by
  induction budget generalizing scanner text with
  | zero =>
      obtain rfl : text = [] := List.eq_nil_of_length_eq_zero (by omega)
      exact ⟨scanner.start, scanner.current, by simp [scanFrom, TokenLine.failure?, locateFrom]⟩
  | succ budget ih =>
      cases text with
      | nil =>
          refine ⟨scanner.start, scanner.current, ?_⟩
          simp [scanFrom, isAtEnd_iff.mpr hahead, TokenLine.failure?, locateFrom]
      | cons c rest =>
          let marked : Scanner := { scanner with start := scanner.current }
          have hmarked : marked.ahead = c :: rest := hahead
          have htoken : marked.scanToken = marked.comesTo (step c rest) := scanToken_eq rfl hmarked
          rw [List.length_cons] at h
          rw [scanFrom, isAtEnd_of_ahead hahead, if_neg Bool.false_ne_true]
          cases hstep : step c rest with
          | gap piece left =>
              obtain ⟨htext, -⟩ := step_eq_iff.mp hstep
              have hleft := length_lt_of_gap hstep
              rw [List.length_cons] at hleft
              rw [hstep] at htoken
              rw [htext] at hmarked
              rw [bind_of_ok htoken, tokenLine_of_gap hstep]
              apply RunsTo.widen
              have hrun := ih (ahead_move_of_append hmarked) (by omega)
              rwa [show (marked.move piece.length).current = marked.current + piece.length from rfl,
                show (marked.move piece.length).offsetAt = marked.offsetAt from rfl,
                offsetAt_add hmarked] at hrun
          | token kind word left =>
              obtain ⟨htext, -⟩ := step_eq_iff.mp hstep
              have hleft := length_lt_of_token hstep
              rw [List.length_cons] at hleft
              rw [hstep] at htoken
              rw [htext] at hmarked
              rw [bind_of_ok htoken, tokenLine_of_token hstep]
              apply RunsTo.push
              have hrun := @ih left (marked.put kind word) (ahead_move_of_append hmarked) (by omega)
              rw [show (marked.put kind word).offsetAt = marked.offsetAt from rfl, put,
                offsetAt_add hmarked] at hrun
              rw [put, offsetAt_add hmarked]
              exact hrun
          | unclosed what =>
              refine ⟨marked.start, marked.current + marked.ahead.length, ?_⟩
              rw [hstep] at htoken
              rw [tokenLine_of_unclosed hstep]
              refine (congrArg (· >>= _) htoken).trans ?_
              simp [TokenLine.failure?, TokenLine.tokenBytes, locateFrom]
              rfl

/-- A run gives the listing of the text, whatever the scanner was left with. -/
theorem scan_eq_listing (scanner : Scanner) :
    scanner.scan.1 =
        (listing scanner.source).failure?.map (fun (what, offset) => .unclosed what offset) ∧
      scanner.scan.2.entries = (listing scanner.source).entries ∧
      scanner.scan.2.source = scanner.source := by
  obtain ⟨start, current, hrun⟩ :=
    @scanFrom_runsTo scanner.source scanner.source.length scanner.reset rfl le_rfl
  have hoffset : scanner.reset.offsetAt scanner.reset.current = 0 := rfl
  rw [scan, hrun, hoffset, listing]
  cases (tokenLine scanner.source).failure? with
  | none => simp [reset, TokenLine.located]
  | some failure => simp [reset, TokenLine.located]

end Runs

end Scanner

end TableLineage.Formula
