import Mathlib.Data.List.Infix
import TableLineage.Formula.QueryText

/-!
# Queries survive being written as literals

`normalizeQuery_encodeQuery`: what is written for a query is read as the query
with its line feeds and tabs blanked.  Each pass of `normalizeQuery` turns its
own escapes back and leaves the rest as it was written; a pass could only find
more if the query held an escape, or adjacent quotes, to begin with.
-/

namespace TableLineage.Formula

open TableLineage.Text

theorem unquote_enquote (text : List Char) : unquote (enquote text) = text := by
  simp [unquote, enquote]

theorem dropWhileEnd_append {p : Char → Bool} {text after : List Char} {c : Char}
    (hc : p c = false) (hafter : ∀ d ∈ after, p d = true) :
    dropWhileEnd p (text ++ c :: after) = text ++ [c] := by
  have hreverse : ∀ d ∈ after.reverse, p d = true := fun d hd =>
    hafter d (List.mem_reverse.mp hd)
  rw [dropWhileEnd, List.reverse_append, List.reverse_cons, List.append_assoc,
    List.dropWhile_append_of_pos hreverse]
  simp [hc]

/-- Quotes inside the literal do not end it here, whether they are doubled or not. -/
theorem quotedSpan_enquote {before after : List Char} (text : List Char) (hbefore : '"' ∉ before)
    (hafter : '"' ∉ after) : quotedSpan (before ++ (enquote text ++ after)) = text := by
  have hfront : ∀ c ∈ before, (c != '"') = true := by
    intro c hc
    simpa using ne_of_mem_of_not_mem hc hbefore
  have hback : ∀ c ∈ after, (c != '"') = true := by
    intro c hc
    simpa using ne_of_mem_of_not_mem hc hafter
  have hrest : ((before ++ (enquote text ++ after)).dropWhile (· != '"')).drop 1 =
      text ++ '"' :: after := by
    rw [List.dropWhile_append_of_pos hfront]
    simp [enquote]
  rw [quotedSpan, hrest, dropWhileEnd_append (by decide) hback, List.dropLast_concat]

section BlankOut

variable {escape : List Char}

theorem blankOut_skip (skip : Nat) (text : List Char) :
    blankOut escape skip text = blankOut escape 0 (text.drop skip) := by
  induction text generalizing skip with
  | nil => cases skip <;> rfl
  | cons c text ih =>
      cases skip with
      | zero => rfl
      | succ skip => rw [blankOut, ih, List.drop_succ_cons]

theorem blankOut_append (ne_nil : escape ≠ []) (text : List Char) :
    blankOut escape 0 (escape ++ text) = ' ' :: blankOut escape 0 text := by
  obtain ⟨c, tail, rfl⟩ := List.exists_cons_of_ne_nil ne_nil
  have hprefix : (c :: tail).isPrefixOf (c :: (tail ++ text)) = true := by
    rw [List.isPrefixOf_iff_prefix]
    exact ⟨text, rfl⟩
  rw [List.cons_append, blankOut, hprefix, blankOut_skip]
  simp

theorem blankOut_cons {c : Char} {text : List Char} (h : ¬ escape <+: c :: text) :
    blankOut escape 0 (c :: text) = c :: blankOut escape 0 text := by
  rw [blankOut, if_neg (by rwa [List.isPrefixOf_iff_prefix])]

end BlankOut

/-- A pattern at the start of what was written stands in the query itself, if the characters
that are not copied begin like none of the pattern. -/
theorem prefix_of_prefix_flatMap {write : Char → List Char} {pattern query : List Char}
    (hwrite : ∀ c, write c = [c] ∨ ∃ d block, write c = d :: block ∧ d ∉ pattern)
    (h : pattern <+: query.flatMap write) : pattern <+: query := by
  induction pattern generalizing query with
  | nil => exact List.nil_prefix
  | cons p pattern ih =>
      cases query with
      | nil => simp at h
      | cons c query =>
          rw [List.flatMap_cons] at h
          rcases hwrite c with hcopy | ⟨d, block, hblock, hd⟩
          · rw [hcopy, List.singleton_append, List.cons_prefix_cons] at h
            refine List.cons_prefix_cons.mpr ⟨h.1, ih ?_ h.2⟩
            intro e
            rcases hwrite e with hcopy | ⟨d, block, hblock, hd⟩
            · exact .inl hcopy
            · exact .inr ⟨d, block, hblock, fun hmem => hd (List.mem_cons_of_mem _ hmem)⟩
          · rw [hblock, List.cons_append, List.cons_prefix_cons] at h
            exact absurd (h.1 ▸ List.mem_cons_self) hd

/-- A block of which a pass leaves what was written, or a space if it is the escape itself. -/
structure Settled (escape block : List Char) : Prop where
  head : ∃ c rest, block = c :: rest ∧ c ∉ escape.tail
  kept : block = escape ∨
    ∀ text, blankOut escape 0 (block ++ text) = block ++ blankOut escape 0 text

def blanked (escape block : List Char) : List Char := if block = escape then [' '] else block

theorem blanked_singleton {escape : List Char} (hlong : 1 < escape.length) (c : Char) :
    blanked escape [c] = [c] := by
  apply if_neg
  intro h
  simp [← h] at hlong

theorem blankOut_flatMap {escape : List Char} {write : Char → List Char} (hlong : 1 < escape.length)
    (hwrite : ∀ c, write c = [c] ∨ Settled escape (write c)) {query : List Char}
    (habsent : ¬ escape <:+: query) :
    blankOut escape 0 (query.flatMap write) = query.flatMap (blanked escape ∘ write) := by
  obtain ⟨first, tail, rfl⟩ := List.exists_cons_of_length_pos (by omega : 0 < escape.length)
  induction query with
  | nil => rfl
  | cons c query ih =>
      have htail := ih (mt List.infix_cons habsent)
      rw [List.flatMap_cons, List.flatMap_cons, ← htail, Function.comp_apply]
      rcases hwrite c with hcopy | hsettled
      · rw [hcopy, blanked_singleton hlong, List.singleton_append, List.singleton_append]
        apply blankOut_cons
        intro hprefix
        -- An escape that begins here is made of copied characters to its end.
        obtain ⟨rfl, hrest⟩ := List.cons_prefix_cons.mp hprefix
        have hquery : tail <+: query := by
          apply prefix_of_prefix_flatMap _ hrest
          intro d
          exact (hwrite d).imp id Settled.head
        have hwhole : first :: tail <+: first :: query := List.cons_prefix_cons.mpr ⟨rfl, hquery⟩
        exact habsent hwhole.isInfix
      · by_cases hescape : write c = first :: tail
        · rw [hescape, blanked, if_pos rfl, blankOut_append (by simp)]
          rfl
        · rw [blanked, if_neg hescape, hsettled.kept.resolve_left hescape]

theorem collapseQuotes_append {block : List Char} (ne_nil : block ≠ []) (hquote : '"' ∉ block)
    (afterQuote : Bool) (text : List Char) :
    collapseQuotes afterQuote (block ++ text) = block ++ collapseQuotes false text := by
  induction block generalizing afterQuote with
  | nil => contradiction
  | cons c block ih =>
      obtain ⟨hc, hblock⟩ := not_or.mp (mt List.mem_cons.mpr hquote)
      rw [List.cons_append, collapseQuotes, if_neg (Ne.symm hc)]
      cases block with
      | nil => rfl
      | cons d block =>
          rw [ih (by simp) hblock]
          rfl

theorem collapseQuotes_flatMap {write : Char → List Char} (hdoubled : write '"' = ['"', '"'])
    (hothers : ∀ c, c ≠ '"' → write c ≠ [] ∧ '"' ∉ write c) {query : List Char}
    (hadjacent : ¬ ['"', '"'] <:+: query) {afterQuote : Bool}
    (hafter : afterQuote = true → query.head? ≠ some '"') :
    collapseQuotes afterQuote (query.flatMap write) =
      query.flatMap fun c => if c = '"' then ['"'] else write c := by
  induction query generalizing afterQuote with
  | nil => rfl
  | cons c query ih =>
      have hquery : ¬ ['"', '"'] <:+: query := mt List.infix_cons hadjacent
      rw [List.flatMap_cons, List.flatMap_cons]
      by_cases hc : c = '"'
      · subst hc
        have hafter' : afterQuote = false := by
          cases afterQuote with
          | false => rfl
          | true => exact absurd rfl (hafter rfl)
        have hhead : query.head? ≠ some '"' := by
          intro hhead
          obtain ⟨tail, rfl⟩ := List.head?_eq_some_iff.mp hhead
          exact hadjacent ⟨[], tail, rfl⟩
        have htail := @ih hquery true (fun _ => hhead)
        rw [if_pos rfl, ← htail, hdoubled, hafter']
        rfl
      · obtain ⟨hne, hquote⟩ := hothers c hc
        rw [if_neg hc, collapseQuotes_append hne hquote, ih hquery (by simp)]

/-! ## The three passes -/

/-- Quotes, line feeds and tabs are written as blocks, other characters as they are. -/
def writeWith (quote feed tab : List Char) (c : Char) : List Char :=
  if c = '"' then quote else if c = '\n' then feed else if c = '\t' then tab else [c]

section WriteWith

variable {quote feed tab : List Char}

theorem writeWith_cases {p : List Char → Prop} (hquote : p quote) (hfeed : p feed) (htab : p tab)
    {c : Char} (hcopy : c ≠ '"' → p [c]) : p (writeWith quote feed tab c) := by
  unfold writeWith
  split
  · exact hquote
  · next hc =>
      split
      · exact hfeed
      · split
        · exact htab
        · exact hcopy hc

theorem blanked_writeWith {escape : List Char} (hlong : 1 < escape.length) (c : Char) :
    blanked escape (writeWith quote feed tab c) =
      writeWith (blanked escape quote) (blanked escape feed) (blanked escape tab) c := by
  simp only [writeWith, apply_ite (blanked escape), blanked_singleton hlong]

theorem blankOut_writeWith {escape : List Char} (hlong : 1 < escape.length)
    (hquote : Settled escape quote) (hfeed : Settled escape feed) (htab : Settled escape tab)
    {query : List Char} (habsent : ¬ escape <:+: query) :
    blankOut escape 0 (query.flatMap (writeWith quote feed tab)) =
      query.flatMap
        (writeWith (blanked escape quote) (blanked escape feed) (blanked escape tab)) := by
  have hwrite : ∀ c, writeWith quote feed tab c = [c] ∨
      Settled escape (writeWith quote feed tab c) := fun c =>
    @writeWith_cases _ _ _ (fun block => block = [c] ∨ Settled escape block)
      (.inr hquote) (.inr hfeed) (.inr htab) _ (fun _ => .inl rfl)
  rw [blankOut_flatMap hlong hwrite habsent]
  congr 1
  funext c
  exact blanked_writeWith hlong c

theorem collapseQuotes_writeWith (hfeed : feed ≠ [] ∧ '"' ∉ feed) (htab : tab ≠ [] ∧ '"' ∉ tab)
    {query : List Char} (hadjacent : ¬ ['"', '"'] <:+: query) :
    collapseQuotes false (query.flatMap (writeWith ['"', '"'] feed tab)) =
      query.flatMap (writeWith ['"'] feed tab) := by
  have hothers : ∀ c, c ≠ '"' → writeWith ['"', '"'] feed tab c ≠ [] ∧
      '"' ∉ writeWith ['"', '"'] feed tab c := by
    intro c hc
    rw [writeWith, if_neg hc]
    split
    · exact hfeed
    · split
      · exact htab
      · simpa using Ne.symm hc
  rw [collapseQuotes_flatMap rfl hothers hadjacent (by simp)]
  congr 1
  funext c
  by_cases hc : c = '"' <;> simp [writeWith, hc]

end WriteWith

theorem writeWith_blankBreak : writeWith ['"'] [' '] [' '] = fun c => [blankBreak c] := by
  funext c
  by_cases hquote : c = '"'
  · subst hquote
    rfl
  · by_cases hfeed : c = '\n'
    · subst hfeed
      rfl
    · by_cases htab : c = '\t'
      · subst htab
        rfl
      · simp [writeWith, blankBreak, hquote, hfeed, htab]

theorem normalizeQuery_encodeQuery {query : List Char} (hadjacent : ¬ ['"', '"'] <:+: query)
    (hfeed : ¬ lineFeedEscape <:+: query) (htab : ¬ tabEscape <:+: query) :
    normalizeQuery (encodeQuery query) = query.map blankBreak := by
  have hfirst : blankOut lineFeedEscape 0 (encodeQuery query) =
      query.flatMap (writeWith ['"', '"'] [' '] tabEscape) :=
    blankOut_writeWith (by decide) ⟨⟨_, _, rfl, by decide⟩, .inr fun _ => rfl⟩
      ⟨⟨_, _, rfl, by decide⟩, .inl rfl⟩ ⟨⟨_, _, rfl, by decide⟩, .inr fun _ => rfl⟩ hfeed
  have hsecond : collapseQuotes false (query.flatMap (writeWith ['"', '"'] [' '] tabEscape)) =
      query.flatMap (writeWith ['"'] [' '] tabEscape) :=
    collapseQuotes_writeWith (by decide) (by decide) hadjacent
  have hthird : blankOut tabEscape 0 (query.flatMap (writeWith ['"'] [' '] tabEscape)) =
      query.flatMap (writeWith ['"'] [' '] [' ']) :=
    blankOut_writeWith (by decide) ⟨⟨_, _, rfl, by decide⟩, .inr fun _ => rfl⟩
      ⟨⟨_, _, rfl, by decide⟩, .inr fun _ => rfl⟩ ⟨⟨_, _, rfl, by decide⟩, .inl rfl⟩ htab
  rw [normalizeQuery, hfirst, hsecond, hthird, writeWith_blankBreak, List.map_eq_flatMap]

end TableLineage.Formula
