import TableLineage.Proofs.Formula.Quiet
import TableLineage.Proofs.Formula.Scanner

/-!
# What a scanner rejects

`scan_rejects_unclosed`: a run fails on the texts that end inside a literal or
a block comment, as the reading character by character sees it, and on no
others.  It names the place where that literal or comment begins, and the
entries it keeps are those of the text in front of that place.
-/

namespace TableLineage.Formula

open TableLineage.Text

theorem Reading.after_append (reading : Reading) (first second rest : List Char) :
    reading.after rest (first ++ second) =
      (reading.after (second ++ rest) first).after rest second := by
  induction first generalizing reading with
  | nil => rfl
  | cons c first ih => simp [Reading.after, ih]

theorem after_shape {kind : Kind} {word rest : List Char} (h : Shape kind word rest) :
    Reading.start.after rest word = .start := by
  cases hcuts : kind.cuts with
  | false => exact (passes_shape h hcuts).after_eq
  | true =>
      cases h with
      | leftParen | rightParen | leftSquare | rightSquare | leftBrace | rightBrace | comma => rfl
      | _ => contradiction

theorem Resting.after_eq {reading : Reading} {word rest : List Char}
    (h : Resting reading (word ++ rest)) (ne_nil : word ≠ []) :
    reading.after rest word = Reading.start.after rest word := by
  cases word with
  | nil => contradiction
  | cons c word =>
      obtain rfl | ⟨rfl, hstop⟩ := h
      · rfl
      · obtain rfl : c = '\n' := hstop c rfl
        rfl

def Ending.gap : Ending → List Char
  | .complete gap => gap
  | .unclosed _ gap _ => gap

def Ending.tail : Ending → List Char
  | .complete _ => []
  | .unclosed _ _ tail => tail

/-- What stands in front of the part that a line leaves open. -/
def TokenLine.front (line : TokenLine) : List Char :=
  line.tokens.flatMap Token.written ++ line.ending.gap

theorem Lexes.front_append_tail {text : List Char} {line : TokenLine} (h : Lexes text line) :
    line.front ++ line.ending.tail = text := by
  have hwritten := h.written
  rw [TokenLine.written] at hwritten
  rw [TokenLine.front, List.append_assoc, ← hwritten]
  cases line.ending <;> simp [Ending.gap, Ending.tail, Ending.written]

theorem Lexes.resting {text : List Char} {line : TokenLine} (h : Lexes text line)
    {reading : Reading} (resting : Resting reading text) :
    Resting (reading.after line.ending.tail line.front) line.ending.tail := by
  induction h generalizing reading with
  | complete hgap =>
      obtain ⟨final, hpasses, hfinal⟩ := passes_gap hgap (by simpa using resting)
      simpa [TokenLine.front, Ending.gap, Ending.tail, hpasses.after_eq] using hfinal
  | unclosed hgap _ =>
      obtain ⟨final, hpasses, hfinal⟩ := passes_gap hgap resting
      simpa [TokenLine.front, Ending.gap, Ending.tail, hpasses.after_eq] using hfinal
  | @token token rest line hgap hshape hrest ih =>
      obtain ⟨final, hpasses, hfinal⟩ := passes_gap hgap (by simpa [Token.written] using resting)
      have hrest' := hrest.front_append_tail
      have hfront : (line.push token).front = token.gap ++ (token.text ++ line.front) := by
        simp [TokenLine.front, TokenLine.push, Token.written]
      have hreading : reading.after line.ending.tail (token.gap ++ (token.text ++ line.front)) =
          Reading.start.after line.ending.tail line.front := by
        rw [Reading.after_append, Reading.after_append, List.append_assoc, hrest',
          hpasses.after_eq, hfinal.after_eq hshape.ne_nil, after_shape hshape]
      rw [hfront, TokenLine.push, hreading]
      exact ih .start

/-- What stands in front of an open part is read alone as it was read with that part. -/
theorem Lexes.front {text : List Char} {line : TokenLine} (h : Lexes text line) :
    Lexes line.front ⟨line.tokens, .complete line.ending.gap⟩ := by
  induction h with
  | complete hgap => exact .complete hgap
  | unclosed hgap _ => exact .complete (hgap.of_head? (by simp))
  | @token token rest line hgap hshape hrest ih =>
      have hfront : (line.push token).front = token.written ++ line.front := by
        simp [TokenLine.front, TokenLine.push]
      rw [hfront]
      rw [← hrest.front_append_tail] at hgap hshape
      refine .token (hgap.of_head? ?_) hshape.truncate ih
      intro c hc
      rw [← List.append_assoc]
      exact mem_head?_append hc

def Unclosed.openings : Unclosed → List (List Char)
  | .literal => [['"'], ['#', '"']]
  | .comment => [['/', '*']]

def Unclosed.mode : Unclosed → Mode
  | .literal => .literal
  | .comment => .blockComment

/-- What a text that ends in the mode leaves open. -/
def Mode.unclosed? : Mode → Option Unclosed
  | .literal => some .literal
  | .blockComment => some .comment
  | .code | .lineComment => none

/-- A literal or a comment begins in front of `tail` and is not closed in it. -/
structure OpensAt (what : Unclosed) (before tail : List Char) : Prop where
  code : Reading.start.after tail before = .start
  inside : ∃ opening ∈ what.openings, ∃ body, tail = opening ++ body ∧
    ∀ inner rest, body = inner ++ rest →
      (Reading.start.after rest (before ++ (opening ++ inner))).mode = what.mode
  /-- The hash sign of a quoted identifier belongs to it. -/
  hash : tail.head? = some '"' → before.getLast? ≠ some '#'

theorem mode_after_doubled {body inner rest : List Char} (h : Doubled body)
    (hbody : body = inner ++ rest) :
    (Reading.after ⟨.literal, false⟩ rest inner).mode = .literal := by
  induction h generalizing inner with
  | nil =>
      obtain ⟨rfl, -⟩ := List.append_eq_nil_iff.mp hbody.symm
      rfl
  | @plain c body hc _ ih =>
      cases inner with
      | nil => rfl
      | cons d inner =>
          obtain ⟨rfl, rfl⟩ := List.cons.inj hbody
          simpa [Reading.after, Reading.next, hc] using ih rfl
  | @pair body _ ih =>
      cases inner with
      | nil => rfl
      | cons d inner =>
          obtain ⟨rfl, htail⟩ := List.cons.inj hbody
          cases inner with
          | nil =>
              cases htail
              rfl
          | cons e inner =>
              obtain ⟨rfl, rfl⟩ := List.cons.inj htail
              simpa [Reading.after, Reading.next] using ih rfl

theorem mode_after_comment {body inner rest : List Char} (h : ¬ ['*', '/'] <:+: body)
    (hbody : body = inner ++ rest) :
    (Reading.after ⟨.blockComment, false⟩ rest inner).mode = .blockComment := by
  have hinner : ¬ ['*', '/'] <:+: inner ++ rest.take 1 := by
    refine fun hclosing => h (hclosing.trans ⟨[], rest.drop 1, ?_⟩)
    rw [hbody, List.nil_append, List.append_assoc, List.take_append_drop]
  rw [(passes_inComment hinner).after_eq]

theorem Open.inside {what : Unclosed} {tail : List Char} (h : Open what tail) :
    ∃ opening ∈ what.openings, ∃ body, tail = opening ++ body ∧
      ∀ inner rest, body = inner ++ rest →
        (Reading.start.after rest (opening ++ inner)).mode = what.mode := by
  cases h with
  | string hbody =>
      exact ⟨['"'], by simp [Unclosed.openings], _, rfl, fun _ _ => mode_after_doubled hbody⟩
  | quotedIdentifier hbody =>
      exact ⟨['#', '"'], by simp [Unclosed.openings], _, rfl, fun _ _ => mode_after_doubled hbody⟩
  | comment hbody =>
      exact ⟨['/', '*'], by simp [Unclosed.openings], _, rfl, fun _ _ => mode_after_comment hbody⟩

theorem Shape.getLast?_ne_hash {kind : Kind} {word rest : List Char} (h : Shape kind word rest)
    (hrest : rest.head? = some '"') : word.getLast? ≠ some '#' := by
  have hname {c : Char} {tail : List Char} (hc : c ≠ '#') (htail : '#' ∉ tail) :
      (c :: tail).getLast? ≠ some '#' :=
    fun hlast => List.not_mem_cons_of_ne_of_not_mem hc.symm htail (List.mem_of_getLast? hlast)
  cases h with
  | leftParen | rightParen | leftSquare | rightSquare | leftBrace | rightBrace => decide
  | comma | equal | arrow | slash => decide
  | string _ _ => simp [List.getLast?_cons]
  | quotedIdentifier _ _ => simp [List.getLast?_cons]
  | number hc hdigits =>
      exact hname (ne_of_mem_of_not_mem (by decide) (not_mem_marks (.inl hc))).symm
        (hdigits.1.not_mem (by decide) (by decide))
  | identifier hc htail =>
      exact hname (ne_of_mem_of_not_mem (by decide) (not_mem_marks (.inr hc))).symm
        (htail.1.not_mem (by decide) (by decide))
  | @hashIdentifier c tail _ hc htail =>
      have hmem := htail.1.not_mem (c := '#') (by decide) (by decide)
      rw [List.getLast?_cons_cons]
      exact fun hlast => hmem (List.mem_of_getLast? hlast)
  | hash hquote _ => exact absurd hrest hquote
  | other hmarks _ _ _ _ => exact hname (ne_of_mem_of_not_mem (by decide) hmarks).symm (by simp)

theorem GapPiece.getLast?_ne_hash {piece rest : List Char} (h : GapPiece piece rest)
    (hrest : rest.head? = some '"') : piece.getLast? ≠ some '#' := by
  cases h with
  | @blank c _ hc =>
      intro hlast
      obtain rfl : c = '#' := by simpa using hlast
      exact absurd hc (by decide)
  | lineComment _ hstop => exact absurd (hstop '"' hrest) (by decide)
  | blockComment _ => simp [List.getLast?_cons]

theorem Gap.getLast?_ne_hash {gap rest : List Char} (h : Gap gap rest)
    (hrest : rest.head? = some '"') : gap.getLast? ≠ some '#' := by
  induction h with
  | nil => simp
  | @cons piece gap rest hpiece _ ih =>
      cases gap with
      | nil => simpa using hpiece.getLast?_ne_hash hrest
      | cons c gap => simpa [List.getLast?_append] using ih hrest

theorem Lexes.getLast?_front_ne_hash {text : List Char} {line : TokenLine} (h : Lexes text line)
    (htail : line.ending.tail.head? = some '"') : line.front.getLast? ≠ some '#' := by
  induction h with
  | complete _ => simp [Ending.tail] at htail
  | unclosed hgap _ => exact hgap.getLast?_ne_hash htail
  | @token token rest line _ hshape hrest ih =>
      have hfront : (line.push token).front = token.written ++ line.front := by
        simp [TokenLine.front, TokenLine.push]
      have hrest' := hrest.front_append_tail
      rw [hfront]
      cases hline : line.front with
      | nil =>
          rw [hline, List.nil_append] at hrest'
          have hword := hshape.getLast?_ne_hash (hrest' ▸ htail)
          obtain ⟨c, hc⟩ := Option.isSome_iff_exists.mp (List.getLast?_isSome.mpr hshape.ne_nil)
          simpa [Token.written, List.getLast?_append, hc] using hword
      | cons c front =>
          rw [← hline, List.getLast?_append_of_ne_nil _ (by simp [hline])]
          exact ih htail

theorem OpensAt.unclosed? {what : Unclosed} {before tail : List Char}
    (h : OpensAt what before tail) :
    (Reading.start.after [] (before ++ tail)).mode.unclosed? = some what := by
  obtain ⟨opening, -, body, rfl, hinside⟩ := h.inside
  rw [hinside body [] (List.append_nil body).symm]
  cases what <;> rfl

theorem Lexes.opening {text : List Char} {line : TokenLine} (h : Lexes text line)
    {what : Unclosed} {gap tail : List Char} (hending : line.ending = .unclosed what gap tail) :
    Open what tail := by
  induction h with
  | complete _ => contradiction
  | unclosed _ hopen =>
      cases hending
      exact hopen
  | token _ _ _ ih => exact ih hending

theorem Open.not_lineFeed {what : Unclosed} {tail : List Char} (h : Open what tail) :
    ¬ ∀ c ∈ tail.head?, c = '\n' := by
  cases h <;> simp

theorem opensAt_of_lexes {text gap tail : List Char} {tokens : List Token} {what : Unclosed}
    (h : Lexes text ⟨tokens, .unclosed what gap tail⟩) :
    OpensAt what (tokens.flatMap Token.written ++ gap) tail := by
  have hopen : Open what tail := h.opening rfl
  have hcode : Reading.start.after tail (tokens.flatMap Token.written ++ gap) = .start := by
    obtain hstart | ⟨-, hstop⟩ := h.resting (@Resting.start text)
    · exact hstart
    · exact absurd hstop hopen.not_lineFeed
  refine ⟨hcode, ?_, h.getLast?_front_ne_hash⟩
  obtain ⟨opening, hopening, body, rfl, hinside⟩ := hopen.inside
  refine ⟨opening, hopening, body, rfl, ?_⟩
  rintro inner rest rfl
  rw [Reading.after_append, List.append_assoc, hcode]
  exact hinside inner rest rfl

theorem listing_of_complete {text final : List Char} {tokens : List Token}
    (h : Lexes text ⟨tokens, .complete final⟩) :
    listing text =
      ⟨(locateFrom 0 tokens).map Located.entry ++ [.endMark (byteSize text)], none⟩ := by
  rw [listing, tokenLine_of_lexes h]
  rfl

theorem listing_of_unclosed {text gap tail : List Char} {tokens : List Token} {what : Unclosed}
    (h : Lexes text ⟨tokens, .unclosed what gap tail⟩) :
    listing text = ⟨(locateFrom 0 tokens).map Located.entry,
      some (what, byteSize (tokens.flatMap Token.written ++ gap))⟩ := by
  rw [listing, tokenLine_of_lexes h]
  simp [TokenLine.failure?, TokenLine.tokenBytes, TokenLine.located]

/-- The reading of the characters tells what the tokens leave open. -/
theorem unclosed?_eq_listing (text : List Char) :
    (Reading.start.after [] text).mode.unclosed? = (listing text).failure?.map Prod.fst := by
  have hlexes := lexes_tokenLine text
  generalize tokenLine text = line at hlexes
  obtain ⟨tokens, final | ⟨what, gap, tail⟩⟩ := line
  · have hfront := hlexes.front_append_tail
    have hresting := hlexes.resting (@Resting.start text)
    simp only [Ending.tail, List.append_nil] at hfront hresting
    rw [hfront] at hresting
    rw [listing_of_complete hlexes]
    obtain hstart | ⟨hline, -⟩ := hresting
    · rw [hstart]
      rfl
    · rw [hline]
      rfl
  · have htext : tokens.flatMap Token.written ++ gap ++ tail = text := hlexes.front_append_tail
    have hunclosed := (opensAt_of_lexes hlexes).unclosed?
    rw [htext] at hunclosed
    rw [listing_of_unclosed hlexes, hunclosed]
    rfl

theorem listing_failure {text : List Char} {what : Unclosed} {offset : Nat}
    (h : (listing text).failure? = some (what, offset)) :
    ∃ before tail, text = before ++ tail ∧ offset = byteSize before ∧ OpensAt what before tail ∧
      listing before = ⟨(listing text).entries ++ [.endMark offset], none⟩ := by
  have hlexes := lexes_tokenLine text
  generalize tokenLine text = line at hlexes
  obtain ⟨tokens, final | ⟨what', gap, tail⟩⟩ := line
  · rw [listing_of_complete hlexes] at h
    contradiction
  · have hlisting := listing_of_unclosed hlexes
    rw [hlisting] at h
    cases h
    refine ⟨_, tail, hlexes.front_append_tail.symm, rfl, opensAt_of_lexes hlexes, ?_⟩
    rw [hlisting]
    exact listing_of_complete hlexes.front

/-! ## Runs -/

namespace Scanner

theorem scan_congr {scanner other : Scanner} (h : other.source = scanner.source) :
    other.scan.1 = scanner.scan.1 ∧ other.scan.2.entries = scanner.scan.2.entries := by
  obtain ⟨hstop, hentries, -⟩ := scan_eq_listing scanner
  obtain ⟨hstop', hentries', -⟩ := scan_eq_listing other
  rw [hstop, hentries, hstop', hentries', h]
  exact ⟨rfl, rfl⟩

/-- The scanner behind a number of runs. -/
def rerun (scanner : Scanner) : Nat → Scanner
  | 0 => scanner
  | runs + 1 => (scanner.rerun runs).scan.2

theorem source_rerun (scanner : Scanner) (runs : Nat) :
    (scanner.rerun runs).source = scanner.source := by
  induction runs with
  | zero => rfl
  | succ runs ih => exact (scan_eq_listing _).2.2.trans ih

theorem scan_rejects_unclosed (scanner : Scanner) :
    (scanner.scan.1 = none ↔ (Reading.start.after [] scanner.source).mode.unclosed? = none) ∧
    (∀ what, (∃ offset, scanner.scan.1 = some (.unclosed what offset)) ↔
      (Reading.start.after [] scanner.source).mode.unclosed? = some what) ∧
    (∀ stop, scanner.scan.1 = some stop →
      ∃ what before tail,
        scanner.source = before ++ tail ∧ OpensAt what before tail ∧
        stop = .unclosed what (byteSize before) ∧
        stop.message? =
          some s!"[offset: {byteSize before}] Scanner error: Found unterminated {what.name}" ∧
        (ofText before).scan.1 = none ∧
        (ofText before).scan.2.entries =
          scanner.scan.2.entries ++ [.endMark (byteSize before)]) ∧
    ∀ runs, (scanner.rerun runs).scan.1 = scanner.scan.1 ∧
      (scanner.rerun runs).scan.2.entries = scanner.scan.2.entries := by
  obtain ⟨hstop, hentries, -⟩ := scan_eq_listing scanner
  rw [hstop, unclosed?_eq_listing]
  refine ⟨by simp, fun what => ?_, fun stop h => ?_, fun runs => ?_⟩
  · simp
  · obtain ⟨⟨what, offset⟩, hfailure, rfl⟩ := Option.map_eq_some_iff.mp h
    obtain ⟨before, tail, hsource, rfl, hopens, hbefore⟩ := listing_failure hfailure
    obtain ⟨hstop', hentries', -⟩ := scan_eq_listing (ofText before)
    refine ⟨what, before, tail, hsource, hopens, rfl, rfl, ?_, ?_⟩
    · rw [hstop', show (ofText before).source = before from rfl, hbefore]
      rfl
    · rw [hentries', show (ofText before).source = before from rfl, hbefore, hentries]
  · rw [← hstop]
    exact scan_congr (source_rerun scanner runs)

-- The slash that ends a block comment cannot be the one behind which it begins.
example : (ofText "a/*/".toList).scan.1 = some (.unclosed .comment 1) := by decide +kernel

end Scanner

end TableLineage.Formula
