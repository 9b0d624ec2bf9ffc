import TableLineage.Proofs.Formula.QueryText

/-!
# Normal queries

A query is normal if it holds no escape and no adjacent quotes.  Each pass of
`normalizeQuery` clears away one of the three and makes none of the others: a
space belongs to no escape, and a quote that is dropped leaves the one before
it between its neighbours.  So the passes may come in any order, and together
they are one pass over the text, `normalizeFrom`.
-/

namespace TableLineage.Formula

/-- One pass over the text behind `previous`. -/
def normalizeFrom (previous : Option Char) : List Char → List Char
  | '#' :: '(' :: 'l' :: 'f' :: ')' :: text => ' ' :: normalizeFrom (some ')') text
  | '#' :: '(' :: 't' :: 'a' :: 'b' :: ')' :: text => ' ' :: normalizeFrom (some ')') text
  | c :: text =>
      if c = '"' ∧ previous = some '"' then normalizeFrom (some c) text
      else c :: normalizeFrom (some c) text
  | [] => []

structure Normal (text : List Char) : Prop where
  no_lineFeed : ¬ lineFeedEscape <:+: text
  no_tab : ¬ tabEscape <:+: text
  no_pair : ¬ ['"', '"'] <:+: text

def queryPasses : List (List Char → List Char) :=
  [blankOut lineFeedEscape 0, collapseQuotes false, blankOut tabEscape 0]

def runPasses (order : List (List Char → List Char)) (text : List Char) : List Char :=
  order.foldl (fun text pass => pass text) text

theorem escape_induction {escapes : List (List Char)} (ne_nil : [] ∉ escapes)
    {p : List Char → Prop} (nil : p [])
    (escape : ∀ e ∈ escapes, ∀ rest, p rest → p (e ++ rest))
    (plain : ∀ c rest, (∀ e ∈ escapes, ¬ e <+: c :: rest) → p rest → p (c :: rest))
    (text : List Char) : p text := by
  -- on the length, as an escape that begins somewhere is taken as a whole
  induction hlength : text.length using Nat.strong_induction_on generalizing text with
  | _ length ih =>
      subst hlength
      cases text with
      | nil => exact nil
      | cons c text =>
          by_cases hescape : ∃ e ∈ escapes, e <+: c :: text
          · obtain ⟨e, he, rest, hrest⟩ := hescape
            have hpos : 0 < e.length := List.length_pos_of_ne_nil (ne_of_mem_of_not_mem he ne_nil)
            rw [← hrest]
            refine escape e he rest (ih _ ?_ rest rfl)
            rw [← hrest, List.length_append]
            omega
          · refine plain c text ?_ (ih _ (by simp) text rfl)
            intro e he hbegins
            exact hescape ⟨e, he, hbegins⟩

theorem escapes_induction {p : List Char → Prop} (nil : p [])
    (lineFeed : ∀ rest, p rest → p (lineFeedEscape ++ rest))
    (tab : ∀ rest, p rest → p (tabEscape ++ rest))
    (plain : ∀ c rest, ¬ lineFeedEscape <+: c :: rest → ¬ tabEscape <+: c :: rest →
      p rest → p (c :: rest)) (text : List Char) : p text := by
  refine @escape_induction [lineFeedEscape, tabEscape] (by decide) p nil ?_ ?_ text
  · simpa using ⟨lineFeed, tab⟩
  · simpa using plain

/-- A pass that copies the characters of a text up to where it writes `mark` for some of them. -/
structure Copies (mark : Char) (pass : List Char → List Char) : Prop where
  nil : pass [] = []
  cons : ∀ c text, (∃ rest, pass (c :: text) = mark :: rest) ∨ pass (c :: text) = c :: pass text

theorem copies_blankOut (escape : List Char) : Copies ' ' (blankOut escape 0) := by
  refine ⟨rfl, fun c text => ?_⟩
  rw [blankOut]
  split
  · exact .inl ⟨_, rfl⟩
  · exact .inr rfl

theorem copies_collapseQuotes : Copies '"' (collapseQuotes false) := by
  refine ⟨rfl, fun c text => ?_⟩
  rw [collapseQuotes]
  split
  · next hc => exact .inl ⟨collapseQuotes true text, by rw [hc]; rfl⟩
  · exact .inr rfl

theorem Copies.prefix_of_prefix {mark : Char} {pass : List Char → List Char} (h : Copies mark pass)
    {part text : List Char} (hmark : mark ∉ part) (hbegins : part <+: pass text) :
    part <+: text := by
  -- on the part: the mark is none of its characters, so each of them was copied
  induction part generalizing text with
  | nil => exact List.nil_prefix
  | cons d part ih =>
      obtain ⟨hd, hpart⟩ := not_or.mp (mt List.mem_cons.mpr hmark)
      cases text with
      | nil => simp [h.nil] at hbegins
      | cons c text =>
          obtain ⟨rest, hwritten⟩ | hcopied := h.cons c text
          · rw [hwritten, List.cons_prefix_cons] at hbegins
            exact absurd hbegins.1.symm hd
          · rw [hcopied, List.cons_prefix_cons] at hbegins
            exact List.cons_prefix_cons.mpr ⟨hbegins.1, ih hpart hbegins.2⟩

theorem Copies.not_prefix_cons {mark : Char} {pass : List Char → List Char} (h : Copies mark pass)
    {escape text : List Char} {c : Char} (hmark : mark ∉ escape) (hplain : ¬ escape <+: c :: text) :
    ¬ escape <+: c :: pass text := by
  intro hbegins
  cases escape with
  | nil => exact hplain List.nil_prefix
  | cons d escape =>
      obtain ⟨rfl, hrest⟩ := List.cons_prefix_cons.mp hbegins
      have hrest' := h.prefix_of_prefix (mt (List.mem_cons_of_mem _) hmark) hrest
      exact hplain (List.cons_prefix_cons.mpr ⟨rfl, hrest'⟩)

/-- The pass takes away every occurrence of the pattern, and nothing but these. -/
structure Clears (pattern : List Char) (pass : List Char → List Char) : Prop where
  absent : ∀ text, ¬ pattern <:+: pass text
  unchanged : ∀ text, ¬ pattern <:+: text → pass text = text

structure IsEscape (escape : List Char) : Prop where
  ne_nil : escape ≠ []
  no_space : ' ' ∉ escape
  no_quote : '"' ∉ escape

theorem isEscape_lineFeed : IsEscape lineFeedEscape := ⟨by decide, by decide, by decide⟩

theorem isEscape_tab : IsEscape tabEscape := ⟨by decide, by decide, by decide⟩

theorem IsEscape.not_prefix_cons {escape : List Char} (h : IsEscape escape) {c : Char}
    (hc : c ∉ escape) (text : List Char) : ¬ escape <+: c :: text := by
  obtain ⟨d, tail, rfl⟩ := List.exists_cons_of_ne_nil h.ne_nil
  rw [List.cons_prefix_cons]
  rintro ⟨rfl, -⟩
  exact hc List.mem_cons_self

theorem IsEscape.induction {escape : List Char} (h : IsEscape escape) {p : List Char → Prop}
    (nil : p []) (escaped : ∀ rest, p rest → p (escape ++ rest))
    (plain : ∀ c rest, ¬ escape <+: c :: rest → p rest → p (c :: rest)) (text : List Char) :
    p text := by
  refine @escape_induction [escape] (by simpa using h.ne_nil.symm) p nil ?_ ?_ text
  · simpa using escaped
  · simpa using plain

theorem clears_blankOut {escape : List Char} (h : IsEscape escape) :
    Clears escape (blankOut escape 0) := by
  constructor
  · intro text
    induction text using h.induction with
    | nil => simpa [blankOut] using h.ne_nil
    | escaped rest ih =>
        rw [blankOut_append h.ne_nil, List.infix_cons_iff, not_or]
        exact ⟨h.not_prefix_cons h.no_space _, ih⟩
    | plain c rest hplain ih =>
        rw [blankOut_cons hplain, List.infix_cons_iff, not_or]
        exact ⟨(copies_blankOut escape).not_prefix_cons h.no_space hplain, ih⟩
  · intro text habsent
    induction text with
    | nil => rfl
    | cons c text ih =>
        rw [List.infix_cons_iff, not_or] at habsent
        rw [blankOut_cons habsent.1, ih habsent.2]

theorem pair_prefix_cons_iff {c : Char} {text : List Char} :
    ['"', '"'] <+: c :: text ↔ c = '"' ∧ text.head? = some '"' := by
  cases text <;> simp [List.cons_prefix_cons, eq_comm]

theorem head?_collapseQuotes_true (text : List Char) :
    (collapseQuotes true text).head? ≠ some '"' := by
  induction text with
  | nil => simp [collapseQuotes]
  | cons c text ih =>
      rw [collapseQuotes]
      split
      · exact ih
      · next hc => simpa using hc

theorem no_pair_collapseQuotes (afterQuote : Bool) (text : List Char) :
    ¬ ['"', '"'] <:+: collapseQuotes afterQuote text := by
  induction text generalizing afterQuote with
  | nil => simp [collapseQuotes]
  | cons c text ih =>
      rw [collapseQuotes]
      split
      · split
        · exact ih true
        · rw [List.infix_cons_iff, pair_prefix_cons_iff, not_or]
          exact ⟨fun h => head?_collapseQuotes_true text h.2, ih true⟩
      · next hc =>
          rw [List.infix_cons_iff, pair_prefix_cons_iff, not_or]
          exact ⟨fun h => hc h.1, ih false⟩

theorem collapseQuotes_of_no_pair {afterQuote : Bool} {text : List Char}
    (hpair : ¬ ['"', '"'] <:+: text) (hafter : afterQuote = true → text.head? ≠ some '"') :
    collapseQuotes afterQuote text = text := by
  induction text generalizing afterQuote with
  | nil => rfl
  | cons c text ih =>
      rw [List.infix_cons_iff, pair_prefix_cons_iff, not_or] at hpair
      rw [collapseQuotes]
      split
      · next hc =>
          have hfirst : ¬ afterQuote = true := fun h => hafter h (by simp [hc])
          rw [if_neg hfirst, ih hpair.2 fun _ hhead => hpair.1 ⟨hc, hhead⟩]
      · rw [ih hpair.2 (by simp)]

theorem clears_collapseQuotes : Clears ['"', '"'] (collapseQuotes false) :=
  ⟨no_pair_collapseQuotes false, fun _ h => collapseQuotes_of_no_pair h (by simp)⟩

theorem blankOut_collapseQuotes {escape : List Char} (h : IsEscape escape) (afterQuote : Bool)
    (text : List Char) :
    blankOut escape 0 (collapseQuotes afterQuote text) =
      collapseQuotes afterQuote (blankOut escape 0 text) := by
  induction text using h.induction generalizing afterQuote with
  | nil => rfl
  | escaped rest ih =>
      rw [collapseQuotes_append h.ne_nil h.no_quote, blankOut_append h.ne_nil,
        blankOut_append h.ne_nil, ih]
      rfl
  | plain c rest hplain ih =>
      rw [blankOut_cons hplain, collapseQuotes, collapseQuotes]
      split
      · next hc =>
          split
          · exact ih true
          · rw [blankOut_cons (h.not_prefix_cons (hc ▸ h.no_quote) _), ih]
      · rw [blankOut_cons (copies_collapseQuotes.not_prefix_cons h.no_quote hplain), ih]

theorem blankOut_lineFeed_tab (rest : List Char) :
    blankOut lineFeedEscape 0 (tabEscape ++ rest) = tabEscape ++ blankOut lineFeedEscape 0 rest :=
  rfl

theorem blankOut_tab_lineFeed (rest : List Char) :
    blankOut tabEscape 0 (lineFeedEscape ++ rest) = lineFeedEscape ++ blankOut tabEscape 0 rest :=
  rfl

theorem blankOut_blankOut (text : List Char) :
    blankOut tabEscape 0 (blankOut lineFeedEscape 0 text) =
      blankOut lineFeedEscape 0 (blankOut tabEscape 0 text) := by
  induction text using escapes_induction with
  | nil => rfl
  | lineFeed rest ih =>
      rw [blankOut_tab_lineFeed, blankOut_append isEscape_lineFeed.ne_nil,
        blankOut_append isEscape_lineFeed.ne_nil, ← ih]
      rfl
  | tab rest ih =>
      rw [blankOut_lineFeed_tab, blankOut_append isEscape_tab.ne_nil,
        blankOut_append isEscape_tab.ne_nil, ih]
      rfl
  | plain c rest hlineFeed htab ih =>
      have hlineFeed' := (copies_blankOut tabEscape).not_prefix_cons
        isEscape_lineFeed.no_space hlineFeed
      have htab' := (copies_blankOut lineFeedEscape).not_prefix_cons isEscape_tab.no_space htab
      rw [blankOut_cons hlineFeed, blankOut_cons htab, blankOut_cons htab',
        blankOut_cons hlineFeed', ih]

theorem normalizeFrom_plain {c : Char} {text : List Char}
    (hlineFeed : ¬ lineFeedEscape <+: c :: text) (htab : ¬ tabEscape <+: c :: text)
    (previous : Option Char) :
    normalizeFrom previous (c :: text) =
      if c = '"' ∧ previous = some '"' then normalizeFrom (some c) text
      else c :: normalizeFrom (some c) text := by
  apply normalizeFrom.eq_3
  · rintro rest rfl rfl
    exact hlineFeed ⟨rest, rfl⟩
  · rintro rest rfl rfl
    exact htab ⟨rest, rfl⟩

theorem normalizeFrom_eq (previous : Option Char) (text : List Char) :
    normalizeFrom previous text =
      collapseQuotes (previous == some '"')
        (blankOut tabEscape 0 (blankOut lineFeedEscape 0 text)) := by
  induction text using escapes_induction generalizing previous with
  | nil => rfl
  | lineFeed rest ih =>
      rw [blankOut_append isEscape_lineFeed.ne_nil]
      exact congrArg (' ' :: ·) (ih (some ')'))
  | tab rest ih =>
      rw [blankOut_lineFeed_tab, blankOut_append isEscape_tab.ne_nil]
      exact congrArg (' ' :: ·) (ih (some ')'))
  | plain c rest hlineFeed htab ih =>
      have htab' := (copies_blankOut lineFeedEscape).not_prefix_cons isEscape_tab.no_space htab
      rw [normalizeFrom_plain hlineFeed htab, blankOut_cons hlineFeed, blankOut_cons htab',
        collapseQuotes, ih]
      by_cases hc : c = '"'
      · simp [hc]
      · have hother : (c == '"') = false := by simpa using hc
        simp [hc, hother]

theorem normalizeQuery_eq_normalizeFrom (text : List Char) :
    normalizeQuery text = normalizeFrom none text := by
  rw [normalizeFrom_eq, normalizeQuery, blankOut_collapseQuotes isEscape_tab]
  rfl

/-! ## Main result -/

theorem runPasses_perm {order : List (List Char → List Char)} (h : order.Perm queryPasses)
    (text : List Char) : runPasses order text = normalizeQuery text := by
  refine (h.symm.foldl_eq' ?_ text).symm
  intro first hfirst second hsecond text
  simp only [queryPasses, List.mem_cons, List.not_mem_nil, or_false] at hfirst hsecond
  obtain rfl | rfl | rfl := hfirst <;> obtain rfl | rfl | rfl := hsecond
  · rfl
  · exact (blankOut_collapseQuotes isEscape_lineFeed false text).symm
  · exact blankOut_blankOut text
  · exact blankOut_collapseQuotes isEscape_lineFeed false text
  · rfl
  · exact blankOut_collapseQuotes isEscape_tab false text
  · exact (blankOut_blankOut text).symm
  · exact (blankOut_collapseQuotes isEscape_tab false text).symm
  · rfl

/-- As any of the passes may be the last one, none leaves what another has cleared away. -/
theorem no_infix_normalizeQuery {pattern : List Char} {pass : List Char → List Char}
    (hpass : pass ∈ queryPasses) (h : Clears pattern pass) (text : List Char) :
    ¬ pattern <:+: normalizeQuery text := by
  obtain ⟨before, after, hsplit⟩ := List.append_of_mem hpass
  have hlast : (before ++ after ++ [pass]).Perm queryPasses := by
    rw [hsplit, List.append_assoc]
    exact (List.perm_append_singleton pass after).append_left before
  rw [← runPasses_perm hlast, runPasses, List.foldl_append]
  exact h.absent _

theorem normal_normalizeQuery (text : List Char) : Normal (normalizeQuery text) :=
  ⟨no_infix_normalizeQuery (by simp [queryPasses]) (clears_blankOut isEscape_lineFeed) text,
    no_infix_normalizeQuery (by simp [queryPasses]) (clears_blankOut isEscape_tab) text,
    no_infix_normalizeQuery (by simp [queryPasses]) clears_collapseQuotes text⟩

theorem normalizeQuery_of_normal {text : List Char} (h : Normal text) :
    normalizeQuery text = text := by
  rw [normalizeQuery, (clears_blankOut isEscape_lineFeed).unchanged text h.no_lineFeed,
    clears_collapseQuotes.unchanged text h.no_pair,
    (clears_blankOut isEscape_tab).unchanged text h.no_tab]

theorem normalizeQuery_isProjection (text : List Char) :
    normalizeQuery text = normalizeFrom none text ∧
    (∀ order : List (List Char → List Char), order.Perm queryPasses →
      runPasses order text = normalizeQuery text) ∧
    Normal (normalizeQuery text) ∧
    (normalizeQuery text = text ↔ Normal text) ∧
    normalizeQuery (normalizeQuery text) = normalizeQuery text := by
  have hnormal := normal_normalizeQuery text
  refine ⟨normalizeQuery_eq_normalizeFrom text, fun order h => runPasses_perm h text, hnormal, ?_,
    normalizeQuery_of_normal hnormal⟩
  constructor
  · intro h
    rwa [h] at hnormal
  · exact normalizeQuery_of_normal

-- Blanking an escape inside of what looks like one leaves no escape behind.
theorem normalizeQuery_isProjection_nested :
    queryPasses.reverse.Perm queryPasses ∧
      runPasses queryPasses.reverse "#(#(lf)lf)\"\"#(tab)\"\"".toList = "#( lf)\" \"".toList := by
  have hreverse := List.reverse_perm queryPasses
  obtain ⟨-, horder, -⟩ := normalizeQuery_isProjection "#(#(lf)lf)\"\"#(tab)\"\"".toList
  exact ⟨hreverse, (horder _ hreverse).trans (by decide)⟩

end TableLineage.Formula
