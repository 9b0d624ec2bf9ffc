import TableLineage.Proofs.Formula.Unclosed

/-!
# Reading line by line

A line feed ends everything but literals and block comments, and a text that is
read to its end is inside of neither.  So a run over two texts with a line feed
between them finds what a run over the first finds and, as many bytes further
on as stand in front of it, what a run over the second finds.
-/

namespace TableLineage.Formula

open TableLineage.Text

theorem GapPiece.lineFeed {piece left : List Char} (h : GapPiece piece left) (rest : List Char) :
    GapPiece piece (left ++ '\n' :: rest) := by
  cases h with
  | blank hc => exact .blank hc
  | lineComment hbody hstop =>
      refine .lineComment hbody ?_
      cases left with
      | nil => simp
      | cons c left => exact hstop
  | blockComment hbody => exact .blockComment hbody

theorem Gap.lineFeed {gap left : List Char} (h : Gap gap left) (rest : List Char) :
    Gap gap (left ++ '\n' :: rest) := by
  induction h with
  | nil => exact .nil
  | @cons piece gap left hpiece _ ih =>
      refine .cons ?_ ih
      rw [← List.append_assoc]
      exact hpiece.lineFeed rest

theorem gapPiece_lineFeed (rest : List Char) : GapPiece ['\n'] rest := .blank (by simp)

theorem tokenLine_lineFeed {front gap : List Char} {tokens : List Token}
    (h : Lexes front ⟨tokens, .complete gap⟩) (rest : List Char) :
    tokenLine (front ++ '\n' :: rest) =
      ((tokenLine rest).widen (gap ++ ['\n'])).prepend tokens := by
  have hgap : Gap gap ('\n' :: rest) := (h.final_gap rfl).lineFeed rest
  have hbreak : tokenLine ('\n' :: rest) = (tokenLine rest).widen ['\n'] :=
    tokenLine_gapPiece (gapPiece_lineFeed rest)
  rw [tokenLine_append h rfl (fenced_cons List.mem_cons_self rest) hgap, hbreak,
    TokenLine.widen_widen]

theorem byteSize_lineFeed : '\n'.utf8Size = 1 := by decide

/-- The entry of the same token with that many bytes in front of its text. -/
def Entry.shift (bytes : Nat) (entry : Entry) : Entry :=
  { entry with start := bytes + entry.start, stop := bytes + entry.stop }

def Stop.shift (bytes : Nat) : Stop → Stop
  | .unclosed what offset => .unclosed what (bytes + offset)
  | .outside => .outside

theorem entries_shift (bytes offset : Nat) (tokens : List Token) :
    (locateFrom (bytes + offset) tokens).map Located.entry =
      ((locateFrom offset tokens).map Located.entry).map (Entry.shift bytes) := by
  induction tokens generalizing offset with
  | nil => rfl
  | cons token tokens ih =>
      simp only [locateFrom, List.map_cons, Nat.add_assoc, ih]
      rfl

/-- The end mark of what stands behind a line feed is that of the whole text. -/
theorem endMark_lineFeed (front rest : List Char) :
    Entry.endMark (byteSize (front ++ '\n' :: rest)) =
      (Entry.endMark (byteSize rest)).shift (byteSize front + 1) := by
  simp [Entry.endMark, Entry.shift, byteSize_lineFeed, Nat.add_assoc]

theorem failure?_prepend (tokens : List Token) (line : TokenLine) :
    (line.prepend tokens).failure? = line.failure?.map fun (what, offset) =>
      (what, byteSize (tokens.flatMap Token.written) + offset) := by
  rcases line with ⟨behind, _ | ⟨what, before, tail⟩⟩ <;>
    simp [TokenLine.prepend, TokenLine.failure?, TokenLine.tokenBytes, Nat.add_assoc]

section Lines

variable {front gap : List Char} {tokens : List Token}
  (h : Lexes front ⟨tokens, .complete gap⟩) (rest : List Char)

include h

theorem byteSize_front_lineFeed :
    byteSize (tokens.flatMap Token.written) + byteSize (gap ++ ['\n']) = byteSize front + 1 := by
  rw [← h.written]
  simp [TokenLine.written, Ending.written, byteSize_lineFeed, Nat.add_assoc]

theorem entries_lineFeed :
    (locateFrom 0 (tokenLine (front ++ '\n' :: rest)).tokens).map Located.entry =
      (locateFrom 0 tokens).map Located.entry ++
        ((locateFrom 0 (tokenLine rest).tokens).map Located.entry).map
          (Entry.shift (byteSize front + 1)) := by
  rw [tokenLine_lineFeed h, TokenLine.prepend, locateFrom_append, List.map_append,
    entries_widen, Nat.zero_add, byteSize_front_lineFeed h, ← entries_shift, Nat.add_zero]

theorem failure?_lineFeed :
    (tokenLine (front ++ '\n' :: rest)).failure? =
      (tokenLine rest).failure?.map fun (what, offset) => (what, byteSize front + 1 + offset) := by
  rw [tokenLine_lineFeed h, failure?_prepend, failure?_widen, Option.map_map,
    ← byteSize_front_lineFeed h]
  simp only [Function.comp_def, Nat.add_assoc]

end Lines

theorem listing_lineFeed {front : List Char} (h : (listing front).failure? = none)
    (rest : List Char) :
    ∃ entries, (listing front).entries = entries ++ [.endMark (byteSize front)] ∧
      listing (front ++ '\n' :: rest) =
        ⟨entries ++ (listing rest).entries.map (Entry.shift (byteSize front + 1)),
          (listing rest).failure?.map fun (what, offset) =>
            (what, byteSize front + 1 + offset)⟩ := by
  obtain ⟨gap, hending⟩ := complete_of_accepted h
  have hlexes : Lexes front ⟨(tokenLine front).tokens, .complete gap⟩ := by
    rw [← hending]
    exact lexes_tokenLine front
  refine ⟨(tokenLine front).located.map Located.entry, listing_entries h, ?_⟩
  rw [listing, listing, TokenLine.located, TokenLine.located, TokenLine.located,
    failure?_lineFeed hlexes, entries_lineFeed hlexes]
  cases (tokenLine rest).failure? with
  | some failure => rfl
  | none =>
      rw [endMark_lineFeed]
      simp

/-! ## Runs -/

namespace Scanner

theorem scan_lineFeed {whole first second : Scanner}
    (hsource : whole.source = first.source ++ '\n' :: second.source)
    (h : first.scan.1 = none) :
    ∃ entries, first.scan.2.entries = entries ++ [.endMark (byteSize first.source)] ∧
      whole.scan.2.entries =
        entries ++ second.scan.2.entries.map (Entry.shift (byteSize first.source + 1)) ∧
      whole.scan.1 = second.scan.1.map (Stop.shift (byteSize first.source + 1)) ∧
      (whole.scan.1 = none ↔ second.scan.1 = none) := by
  obtain ⟨hstop, hentries, -⟩ := scan_eq_listing first
  obtain ⟨hstop', hentries', -⟩ := scan_eq_listing second
  obtain ⟨hstop'', hentries'', -⟩ := scan_eq_listing whole
  have haccepted : (listing first.source).failure? = none := by
    rwa [h, eq_comm, Option.map_eq_none_iff] at hstop
  obtain ⟨entries, hfirst, hwhole⟩ := listing_lineFeed haccepted second.source
  have hfailure : whole.scan.1 = second.scan.1.map (Stop.shift (byteSize first.source + 1)) := by
    rw [hstop'', hstop', hsource, hwhole, Option.map_map, Option.map_map]
    rfl
  refine ⟨entries, hentries.trans hfirst, ?_, hfailure, ?_⟩
  · rw [hentries'', hentries', hsource, hwhole]
  · rw [hfailure, Option.map_eq_none_iff]

-- The equals sign at the end of the first line makes no arrow with what the second begins with.
theorem scan_lineFeed_open :
    "é =\n>\"b".toList = "é =".toList ++ '\n' :: ">\"b".toList ∧
      (ofText "é =".toList).scan.1 = none ∧
      (ofText "é =\n>\"b".toList).scan.1 = some (.unclosed .literal 6) ∧
      ∃ entries, (ofText "é =".toList).scan.2.entries = entries ++ [.endMark 4] ∧
        (ofText "é =\n>\"b".toList).scan.2.entries = entries ++ [⟨some .other, ['>'], 5, 6⟩] := by
  have hsource : (ofText "é =\n>\"b".toList).source =
      (ofText "é =".toList).source ++ '\n' :: (ofText ">\"b".toList).source := by decide
  have hfirst : (ofText "é =".toList).scan.1 = none := by decide +kernel
  obtain ⟨entries, hentries, hwhole, hstop, -⟩ := scan_lineFeed hsource hfirst
  refine ⟨hsource, hfirst, hstop.trans (by decide +kernel), entries, hentries, ?_⟩
  exact hwhole.trans (congrArg (entries ++ ·) (by decide +kernel))

end Scanner

end TableLineage.Formula
