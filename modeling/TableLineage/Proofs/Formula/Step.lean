import Mathlib.Data.List.Infix
import TableLineage.Formula.Grammar
import TableLineage.Proofs.Text.Letter

/-!
# Steps take what the grammar describes

Each reader below `step` is matched with its part of the grammar in both
directions: what it takes has the form, and a text that begins with the form
is taken just so.  `step_eq_iff` sums this up for a step.
-/

namespace TableLineage.Formula

open TableLineage.Text

theorem literal?_doubled {body rest : List Char} (doubled : Doubled body)
    (closed : rest.head? ≠ some '"') :
    literal? (body ++ '"' :: rest) = some (body ++ ['"'], rest) := by
  induction doubled with
  | nil =>
      cases rest with
      | nil => rfl
      | cons c rest =>
          have hc : c ≠ '"' := by simpa using closed
          simp [literal?, hc]
  | plain hc _ ih => simp [literal?, hc, ih]
  | pair _ ih => simp [literal?, ih]

theorem literal?_sound {text body left : List Char}
    (h : literal? text = some (body, left)) :
    ∃ inner, Doubled inner ∧ body = inner ++ ['"'] ∧ text = inner ++ '"' :: left ∧
      left.head? ≠ some '"' := by
  fun_induction literal? text generalizing body left with
  | case1 => simp at h
  | case2 rest ih =>
      obtain ⟨⟨taken, rest'⟩, hread, heq⟩ := Option.map_eq_some_iff.mp h
      obtain ⟨inner, hinner, rfl, rfl, hleft⟩ := ih hread
      cases heq
      exact ⟨'"' :: '"' :: inner, .pair hinner, rfl, rfl, hleft⟩
  | case3 rest hpair =>
      cases h
      refine ⟨[], .nil, rfl, rfl, ?_⟩
      intro hhead
      obtain ⟨tail, rfl⟩ := List.head?_eq_some_iff.mp hhead
      exact hpair tail rfl rfl
  | case4 c rest _ hc ih =>
      obtain ⟨⟨taken, rest'⟩, hread, heq⟩ := Option.map_eq_some_iff.mp h
      obtain ⟨inner, hinner, rfl, rfl, hleft⟩ := ih hread
      cases heq
      exact ⟨c :: inner, .plain hc hinner, rfl, rfl, hleft⟩

theorem literal?_eq_none_iff {text : List Char} : literal? text = none ↔ Doubled text := by
  constructor
  · intro h
    fun_induction literal? text with
    | case1 => exact .nil
    | case2 rest ih => exact .pair (ih (by simpa using h))
    | case3 => simp at h
    | case4 c rest _ hc ih => exact .plain hc (ih (by simpa using h))
  · intro doubled
    induction doubled with
    | nil => rfl
    | plain hc _ ih => simp [literal?, hc, ih]
    | pair _ ih => simp [literal?, ih]

theorem closing_infix_cons {c : Char} {body : List Char} :
    ['*', '/'] <:+: c :: body ↔
      (c = '*' ∧ body.head? = some '/') ∨ ['*', '/'] <:+: body := by
  have hhead : ['/'] <+: body ↔ body.head? = some '/' := by
    cases body <;> simp [List.cons_prefix_cons, @eq_comm _ '/']
  rw [List.infix_cons_iff, List.cons_prefix_cons, hhead, @eq_comm _ '*' c]

theorem blockComment?_closed {body rest : List Char} (inner : ¬ ['*', '/'] <:+: body) :
    blockComment? (body ++ '*' :: '/' :: rest) = some (body ++ ['*', '/'], rest) := by
  induction body with
  | nil => simp [blockComment?]
  | cons c body ih =>
      rw [closing_infix_cons, not_or] at inner
      have hopen : ∀ tail, c = '*' → body ++ '*' :: '/' :: rest = '/' :: tail → False := by
        rintro tail rfl hbody
        apply inner.1
        cases body with
        | nil => simp at hbody
        | cons d body => simpa using (List.cons.inj hbody).1
      rw [List.cons_append, blockComment?.eq_3 _ _ hopen, ih inner.2]
      rfl

theorem blockComment?_sound {text body left : List Char}
    (h : blockComment? text = some (body, left)) :
    ∃ inner, ¬ ['*', '/'] <:+: inner ∧ body = inner ++ ['*', '/'] ∧
      text = inner ++ '*' :: '/' :: left := by
  fun_induction blockComment? text generalizing body left with
  | case1 => simp at h
  | case2 rest =>
      cases h
      exact ⟨[], by simp, rfl, rfl⟩
  | case3 c rest hopen ih =>
      obtain ⟨⟨taken, rest'⟩, hread, heq⟩ := Option.map_eq_some_iff.mp h
      obtain ⟨inner, hinner, rfl, rfl⟩ := ih hread
      cases heq
      refine ⟨c :: inner, ?_, rfl, rfl⟩
      rw [closing_infix_cons, not_or]
      refine ⟨?_, hinner⟩
      rintro ⟨rfl, hhead⟩
      cases inner with
      | nil => simp at hhead
      | cons d inner =>
          have hd : d = '/' := by simpa using hhead
          exact hopen _ rfl (by rw [hd]; rfl)

theorem blockComment?_eq_none_iff {text : List Char} :
    blockComment? text = none ↔ ¬ ['*', '/'] <:+: text := by
  fun_induction blockComment? text with
  | case1 => simp
  | case2 rest => simp [closing_infix_cons]
  | case3 c rest hopen ih =>
      rw [Option.map_eq_none_iff, ih, closing_infix_cons, not_or]
      refine ⟨fun h => ⟨?_, h⟩, And.right⟩
      rintro ⟨rfl, hhead⟩
      obtain ⟨tail, rfl⟩ := List.head?_eq_some_iff.mp hhead
      exact hopen tail rfl rfl

theorem span_lineComment {body rest : List Char} (inner : '\n' ∉ body)
    (stop : ∀ c ∈ rest.head?, c = '\n') :
    (body ++ rest).span (· != '\n') = (body, rest) := by
  have hbody : ∀ c ∈ body, (c != '\n') = true := by
    intro c hc
    simpa using ne_of_mem_of_not_mem hc inner
  rw [List.span_eq_takeWhile_dropWhile, List.takeWhile_append_of_pos hbody,
    List.dropWhile_append_of_pos hbody]
  cases rest with
  | nil => simp
  | cons c rest =>
      obtain rfl : c = '\n' := stop c rfl
      simp

theorem lineComment_span {text body left : List Char}
    (h : text.span (· != '\n') = (body, left)) :
    text = body ++ left ∧ '\n' ∉ body ∧ ∀ c ∈ left.head?, c = '\n' := by
  rw [List.span_eq_takeWhile_dropWhile] at h
  obtain ⟨rfl, rfl⟩ := Prod.mk.inj h
  refine ⟨List.takeWhile_append_dropWhile.symm, ?_, ?_⟩
  · intro hmem
    simpa using List.all_eq_true.mp List.all_takeWhile _ hmem
  · intro c hc
    have hstop := List.head?_dropWhile_not (· != '\n') text
    rw [Option.mem_def.mp hc] at hstop
    simpa using hstop

def dottedPart (part afterDot : Char → Bool) (c : Char) (next : Option Char) : Bool :=
  part c || (c == '.' && next.any afterDot)

section Dotted

variable {part afterDot : Char → Bool}

theorem continues_cons_iff {c : Char} {rest : List Char} :
    Continues part afterDot (c :: rest) ↔ dottedPart part afterDot c rest.head? = true := by
  cases rest <;> simp [Continues, dottedPart]

theorem spanAhead_dotted {tail rest : List Char} (dotted : Dotted part afterDot tail)
    (stop : ¬ Continues part afterDot rest) :
    spanAhead (dottedPart part afterDot) (tail ++ rest) = (tail, rest) := by
  induction dotted with
  | nil =>
      cases rest with
      | nil => rfl
      | cons c rest =>
          rw [continues_cons_iff] at stop
          simp [spanAhead, stop]
  | part hc _ ih => simp [spanAhead, dottedPart, hc, ih]
  | @dot c tail hc _ ih =>
      rw [List.cons_append, spanAhead, ih]
      simp [dottedPart, hc]

theorem dotted_spanAhead (within : ∀ c, afterDot c = true → part c = true)
    {text tail left : List Char}
    (h : spanAhead (dottedPart part afterDot) text = (tail, left)) :
    text = tail ++ left ∧ Dotted part afterDot tail ∧ ¬ Continues part afterDot left := by
  induction text generalizing tail with
  | nil =>
      cases h
      exact ⟨rfl, .nil, by simp [Continues]⟩
  | cons c rest ih =>
      rw [spanAhead] at h
      by_cases hc : dottedPart part afterDot c rest.head? = true
      · rcases hread : spanAhead (dottedPart part afterDot) rest with ⟨taken, left'⟩
        rw [if_pos hc, hread] at h
        obtain ⟨rfl, rfl⟩ := Prod.mk.inj h
        obtain ⟨rfl, hdotted, hstop⟩ := ih hread
        refine ⟨rfl, ?_, hstop⟩
        by_cases hpart : part c = true
        · exact .part hpart hdotted
        · obtain ⟨rfl, hnext⟩ : c = '.' ∧ (taken ++ left').head?.any afterDot = true := by
            simpa [dottedPart, hpart] using hc
          -- The character behind the dot is itself taken, since it is a part.
          cases taken with
          | cons d taken => exact .dot (by simpa using hnext) hdotted
          | nil =>
              cases left' with
              | nil => simp at hnext
              | cons d left =>
                  have hd : part d = true := within d (by simpa using hnext)
                  exact absurd (continues_cons_iff.mpr (by simp [dottedPart, hd])) hstop
      · rw [if_neg hc] at h
        cases h
        exact ⟨rfl, .nil, by rwa [continues_cons_iff]⟩

end Dotted

theorem digits_of_spanAhead {text tail left : List Char}
    (h : spanAhead inNumber text = (tail, left)) : text = tail ++ left ∧ Digits tail left := by
  exact dotted_spanAhead (fun _ hc => hc) h

theorem nameTail_of_spanAhead {text tail left : List Char}
    (h : spanAhead inIdentifier text = (tail, left)) :
    text = tail ++ left ∧ NameTail tail left := by
  have within : ∀ c, isLetter c = true → isNamePart c = true := by
    intro c hc
    simp [isNamePart, isLetterOrNumeric, hc]
  exact dotted_spanAhead within h

/-! ## Steps -/

theorem literalStep_fits {kind : Kind} {opening rest text : List Char}
    (htext : text = opening ++ rest)
    (hshape : ∀ inner left, Doubled inner → left.head? ≠ some '"' →
      Shape kind (opening ++ (inner ++ ['"'])) left)
    (hopen : Doubled rest → Open .literal text) :
    (literalStep kind opening rest).Fits text := by
  unfold literalStep
  cases hread : literal? rest with
  | none => exact hopen (literal?_eq_none_iff.mp hread)
  | some read =>
      obtain ⟨inner, hinner, hbody, hrest, hleft⟩ := literal?_sound hread
      refine ⟨?_, ?_⟩
      · rw [htext, hrest, hbody]
        simp
      · rw [hbody]
        exact hshape inner read.2 hinner hleft

theorem identifierStep_fits {c : Char} {rest : List Char}
    (hshape : ∀ tail left, rest = tail ++ left → NameTail tail left →
      Shape .identifier (c :: tail) left) :
    (identifierStep c rest).Fits (c :: rest) := by
  rcases hread : spanAhead inIdentifier rest with ⟨tail, left⟩
  obtain ⟨hrest, htail⟩ := nameTail_of_spanAhead hread
  rw [identifierStep, hread]
  exact ⟨by rw [hrest]; rfl, hshape tail left hrest htail⟩

theorem slashStep_fits (rest : List Char) : (slashStep rest).Fits ('/' :: rest) := by
  unfold slashStep
  split
  · next rest =>
      rcases hread : rest.span (· != '\n') with ⟨comment, left⟩
      obtain ⟨rfl, hcomment, hstop⟩ := lineComment_span hread
      exact ⟨rfl, .lineComment hcomment hstop⟩
  · next rest =>
      cases hread : blockComment? rest with
      | none => exact .comment (blockComment?_eq_none_iff.mp hread)
      | some read =>
          obtain ⟨inner, hinner, hbody, hrest⟩ := blockComment?_sound hread
          refine ⟨?_, ?_⟩
          · rw [hrest, hbody]
            simp
          · rw [hbody]
            exact .blockComment hinner
  · next hslash hstar =>
      refine ⟨rfl, .slash ?_ ?_⟩
      · intro hhead
        obtain ⟨tail, rfl⟩ := List.head?_eq_some_iff.mp hhead
        exact hslash tail rfl
      · intro hhead
        obtain ⟨tail, rfl⟩ := List.head?_eq_some_iff.mp hhead
        exact hstar tail rfl

theorem hashStep_fits (rest : List Char) : (hashStep rest).Fits ('#' :: rest) := by
  unfold hashStep
  split
  · exact literalStep_fits rfl (fun _ _ => .quotedIdentifier) .quotedIdentifier
  · next hquote =>
      split
      · next hletter =>
          refine identifierStep_fits ?_
          rintro tail left rfl htail
          cases tail with
          | cons c tail => exact .hashIdentifier (by simpa using hletter) htail
          | nil =>
              cases left with
              | nil => simp at hletter
              | cons c left =>
                  have hc : isLetter c = true := by simpa using hletter
                  refine absurd (continues_cons_iff.mpr ?_) htail.2
                  simp [dottedPart, isNamePart, isLetterOrNumeric, hc]
      · next hletter =>
          refine ⟨rfl, .hash ?_ ?_⟩
          · intro hhead
            obtain ⟨tail, rfl⟩ := List.head?_eq_some_iff.mp hhead
            exact hquote tail rfl
          · intro c hc
            rw [Option.mem_def.mp hc] at hletter
            simpa using hletter

theorem equalStep_fits (rest : List Char) : (equalStep rest).Fits ('=' :: rest) := by
  unfold equalStep
  split
  · exact ⟨rfl, .arrow⟩
  · next harrow =>
      refine ⟨rfl, .equal ?_⟩
      intro hhead
      obtain ⟨tail, rfl⟩ := List.head?_eq_some_iff.mp hhead
      exact harrow tail rfl

theorem isGapBlank_iff {c : Char} : isGapBlank c = true ↔ c ∈ [' ', '\t', '\r', '\n'] := by
  simp [isGapBlank, or_assoc]

def plainStep (c : Char) (rest : List Char) : Step :=
  if isGapBlank c then .gap [c] rest
  else if isAsciiDigit c then
    let (digits, left) := spanAhead inNumber rest
    .token .number (c :: digits) left
  else if isLetter c || c == '_' then identifierStep c rest
  else .token .other [c] rest

theorem step_of_not_mem_marks {c : Char} (h : c ∉ marks) (rest : List Char) :
    step c rest = plainStep c rest := by
  unfold step
  split
  iterate 11 exact absurd (by decide) h
  rfl

theorem plainStep_fits {c : Char} (h : c ∉ marks) (rest : List Char) :
    (plainStep c rest).Fits (c :: rest) := by
  unfold plainStep
  split
  · next hblank => exact ⟨rfl, .blank (isGapBlank_iff.mp hblank)⟩
  · next hblank =>
      split
      · next hdigit =>
          rcases hread : spanAhead inNumber rest with ⟨digits, left⟩
          obtain ⟨rfl, hdigits⟩ := digits_of_spanAhead hread
          exact ⟨rfl, .number hdigit hdigits⟩
      · next hdigit =>
          split
          · next hname =>
              exact identifierStep_fits fun _ _ _ htail => .identifier (by simpa using hname) htail
          · next hname =>
              simp only [Bool.or_eq_true, beq_iff_eq, not_or] at hname
              exact ⟨rfl, .other h (mt isGapBlank_iff.mpr hblank) (by simpa using hdigit)
                (by simpa using hname.1) hname.2⟩

theorem step_fits (c : Char) (rest : List Char) : (step c rest).Fits (c :: rest) := by
  by_cases hmarks : c ∈ marks
  · simp only [marks, List.mem_cons, List.not_mem_nil, or_false] at hmarks
    rcases hmarks with rfl | rfl | rfl | rfl | rfl | rfl | rfl | rfl | rfl | rfl | rfl
    · exact ⟨rfl, .leftParen⟩
    · exact ⟨rfl, .rightParen⟩
    · exact ⟨rfl, .leftSquare⟩
    · exact ⟨rfl, .rightSquare⟩
    · exact ⟨rfl, .leftBrace⟩
    · exact ⟨rfl, .rightBrace⟩
    · exact ⟨rfl, .comma⟩
    · exact equalStep_fits rest
    · exact slashStep_fits rest
    · exact literalStep_fits rfl (fun _ _ => .string) .string
    · exact hashStep_fits rest
  · rw [step_of_not_mem_marks hmarks]
    exact plainStep_fits hmarks rest

/-! ## No other step fits -/

theorem literalStep_doubled {kind : Kind} {opening body rest : List Char}
    (doubled : Doubled body) (closed : rest.head? ≠ some '"') :
    literalStep kind opening (body ++ '"' :: rest) =
      .token kind (opening ++ (body ++ ['"'])) rest := by
  rw [literalStep, literal?_doubled doubled closed]

theorem literalStep_open {kind : Kind} {opening body : List Char} (doubled : Doubled body) :
    literalStep kind opening body = .unclosed .literal := by
  rw [literalStep, literal?_eq_none_iff.mpr doubled]

theorem identifierStep_nameTail {c : Char} {tail rest : List Char} (name : NameTail tail rest) :
    identifierStep c (tail ++ rest) = .token .identifier (c :: tail) rest := by
  have hread : spanAhead inIdentifier (tail ++ rest) = (tail, rest) :=
    spanAhead_dotted name.1 name.2
  rw [identifierStep, hread]

theorem equalStep_of_head? {rest : List Char} (h : rest.head? ≠ some '>') :
    equalStep rest = .token .equal ['='] rest := by
  unfold equalStep
  split
  · exact absurd rfl h
  · rfl

theorem slashStep_of_head? {rest : List Char} (hslash : rest.head? ≠ some '/')
    (hstar : rest.head? ≠ some '*') : slashStep rest = .token .other ['/'] rest := by
  unfold slashStep
  split
  · exact absurd rfl hslash
  · exact absurd rfl hstar
  · rfl

theorem slashStep_gapPiece {piece rest : List Char} (h : GapPiece ('/' :: piece) rest) :
    slashStep (piece ++ rest) = .gap ('/' :: piece) rest := by
  cases h with
  | blank hc => exact absurd hc (by decide)
  | lineComment hbody hstop =>
      rw [List.cons_append, slashStep, span_lineComment hbody hstop]
  | @blockComment body _ hbody =>
      have hread : blockComment? (body ++ '*' :: '/' :: rest) = some (body ++ ['*', '/'], rest) :=
        blockComment?_closed hbody
      simp only [List.cons_append, List.append_assoc, List.nil_append, slashStep, hread]

theorem hashStep_of_head? {rest : List Char} (hquote : rest.head? ≠ some '"')
    (hletter : ∀ c ∈ rest.head?, isLetter c = false) :
    hashStep rest = .token .other ['#'] rest := by
  unfold hashStep
  split
  · exact absurd rfl hquote
  · have hnone : rest.head?.any isLetter = false := by
      cases hhead : rest.head? with
      | none => rfl
      | some c => simpa using hletter c hhead
    rw [hnone]
    rfl

theorem hashStep_nameTail {c : Char} {tail rest : List Char} (hc : isLetter c = true)
    (name : NameTail (c :: tail) rest) :
    hashStep (c :: tail ++ rest) = .token .identifier ('#' :: c :: tail) rest := by
  have hquote : c ≠ '"' := by
    rintro rfl
    exact absurd hc (by decide)
  rw [List.cons_append]
  unfold hashStep
  split
  · next heq => exact absurd (List.cons.inj heq).1 hquote
  · rw [if_pos (by simpa using hc)]
    exact identifierStep_nameTail name

theorem not_mem_of_class {accepts : Char → Bool} {chars : List Char}
    (apart : chars.all (!accepts ·) = true) {c : Char} (hc : accepts c = true) : c ∉ chars := by
  intro hmem
  have hout := List.all_eq_true.mp apart c hmem
  simp [hc] at hout

def beginsWord (c : Char) : Bool := isAsciiDigit c || (isLetter c || c == '_')

theorem beginsWord_iff {c : Char} :
    beginsWord c = true ↔ isAsciiDigit c = true ∨ isLetter c = true ∨ c = '_' := by
  simp [beginsWord]

theorem not_mem_marks {c : Char} (h : isAsciiDigit c = true ∨ isLetter c = true ∨ c = '_') :
    c ∉ marks :=
  not_mem_of_class (by decide) (beginsWord_iff.mpr h)

theorem isGapBlank_eq_false {c : Char}
    (h : isAsciiDigit c = true ∨ isLetter c = true ∨ c = '_') : isGapBlank c = false := by
  rw [← Bool.not_eq_true, isGapBlank_iff]
  exact not_mem_of_class (by decide) (beginsWord_iff.mpr h)

theorem not_mem_marks_of_isNamePart {c : Char} (h : isNamePart c = true) : c ∉ marks :=
  not_mem_of_class (by decide) h

theorem not_mem_marks_of_gapBlank {c : Char} (h : c ∈ [' ', '\t', '\r', '\n']) : c ∉ marks :=
  not_mem_of_class (by decide) (isGapBlank_iff.mpr h)

theorem plainStep_number {c : Char} {tail rest : List Char} (hc : isAsciiDigit c = true)
    (digits : Digits tail rest) :
    plainStep c (tail ++ rest) = .token .number (c :: tail) rest := by
  have hread : spanAhead inNumber (tail ++ rest) = (tail, rest) :=
    spanAhead_dotted digits.1 digits.2
  rw [plainStep, isGapBlank_eq_false (.inl hc), hc, hread]
  rfl

theorem plainStep_identifier {c : Char} {tail rest : List Char}
    (hc : isLetter c = true ∨ c = '_') (name : NameTail tail rest) :
    plainStep c (tail ++ rest) = .token .identifier (c :: tail) rest := by
  have hdigit : isAsciiDigit c = false := by
    rcases hc with hc | rfl
    · by_contra hdigit
      rw [isLetter_of_isAsciiDigit (by simpa using hdigit)] at hc
      contradiction
    · decide
  have hname : (isLetter c || c == '_') = true := by simpa using hc
  rw [plainStep, isGapBlank_eq_false (.inr hc), hdigit, hname]
  exact identifierStep_nameTail name

theorem step_gap {c : Char} {rest piece left : List Char} (htext : c :: rest = piece ++ left)
    (h : GapPiece piece left) : step c rest = .gap piece left := by
  cases h with
  | blank hc =>
      obtain ⟨rfl, rfl⟩ := List.cons.inj htext
      rw [step_of_not_mem_marks (not_mem_marks_of_gapBlank hc), plainStep, isGapBlank_iff.mpr hc]
      rfl
  | lineComment hbody hstop =>
      obtain ⟨rfl, rfl⟩ := List.cons.inj htext
      exact slashStep_gapPiece (.lineComment hbody hstop)
  | blockComment hbody =>
      obtain ⟨rfl, rfl⟩ := List.cons.inj htext
      exact slashStep_gapPiece (.blockComment hbody)

theorem step_token {c : Char} {rest word left : List Char} {kind : Kind}
    (htext : c :: rest = word ++ left) (h : Shape kind word left) :
    step c rest = .token kind word left := by
  cases h with
  | leftParen | rightParen | leftSquare | rightSquare | leftBrace | rightBrace | comma =>
      obtain ⟨rfl, rfl⟩ := List.cons.inj htext
      rfl
  | arrow =>
      obtain ⟨rfl, rfl⟩ := List.cons.inj htext
      rfl
  | equal hhead =>
      obtain ⟨rfl, rfl⟩ := List.cons.inj htext
      exact equalStep_of_head? hhead
  | @string body _ hbody hclosed =>
      obtain ⟨rfl, rfl⟩ := List.cons.inj htext
      change literalStep .string ['"'] (body ++ ['"'] ++ left) = _
      rw [List.append_assoc]
      exact literalStep_doubled hbody hclosed
  | @quotedIdentifier body _ hbody hclosed =>
      obtain ⟨rfl, rfl⟩ := List.cons.inj htext
      change literalStep .quotedIdentifier ['#', '"'] (body ++ ['"'] ++ left) = _
      rw [List.append_assoc]
      exact literalStep_doubled hbody hclosed
  | number hc hdigits =>
      obtain ⟨rfl, rfl⟩ := List.cons.inj htext
      rw [step_of_not_mem_marks (not_mem_marks (.inl hc))]
      exact plainStep_number hc hdigits
  | identifier hc hname =>
      obtain ⟨rfl, rfl⟩ := List.cons.inj htext
      rw [step_of_not_mem_marks (not_mem_marks (.inr hc))]
      exact plainStep_identifier hc hname
  | hashIdentifier hc hname =>
      obtain ⟨rfl, rfl⟩ := List.cons.inj htext
      exact hashStep_nameTail hc hname
  | slash hslash hstar =>
      obtain ⟨rfl, rfl⟩ := List.cons.inj htext
      exact slashStep_of_head? hslash hstar
  | hash hquote hletter =>
      obtain ⟨rfl, rfl⟩ := List.cons.inj htext
      exact hashStep_of_head? hquote hletter
  | other hmarks hblank hdigit hletter hunderscore =>
      obtain ⟨rfl, rfl⟩ := List.cons.inj htext
      have hgap : isGapBlank c = false := by
        rwa [← Bool.not_eq_true, isGapBlank_iff]
      rw [step_of_not_mem_marks hmarks, plainStep, hgap, hdigit, hletter]
      simp [hunderscore]

theorem step_unclosed {c : Char} {rest : List Char} {what : Unclosed}
    (h : Open what (c :: rest)) : step c rest = .unclosed what := by
  cases h with
  | string hbody => exact literalStep_open hbody
  | quotedIdentifier hbody => exact literalStep_open hbody
  | comment hbody =>
      change slashStep ('*' :: _) = _
      rw [slashStep, blockComment?_eq_none_iff.mpr hbody]

theorem step_eq_iff {c : Char} {rest : List Char} {next : Step} :
    step c rest = next ↔ next.Fits (c :: rest) := by
  constructor
  · rintro rfl
    exact step_fits c rest
  · intro h
    cases next with
    | gap piece left => exact step_gap h.1 h.2
    | token kind word left => exact step_token h.1 h.2
    | unclosed what => exact step_unclosed h

end TableLineage.Formula
