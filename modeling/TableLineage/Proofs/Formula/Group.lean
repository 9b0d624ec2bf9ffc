import TableLineage.Proofs.Formula.Fence

/-!
# Text behind a group

The bracket that closes the group of a call separates its arguments from the
rest of the line.  What stands behind it is of no account as long as it does
not end inside a literal or a comment.  If it does, the line is cut at its raw
commas, and the arguments stay what they were just where these commas are the
separators: `classify_behind_group`.
-/

namespace TableLineage.Formula

open TableLineage.Text

/-- The offset behind the bracket that closes a group of which `depth` brackets are open. -/
def groupEnd? (depth : Nat) : List Located → Option Nat
  | [] => none
  | located :: rest =>
      if located.token.kind.opens then groupEnd? (depth + 1) rest
      else if located.token.kind.closes then
        if depth = 1 then some located.stop else groupEnd? (depth - 1) rest
      else groupEnd? depth rest

/-- The offset behind the bracket that closes the first group of a text. -/
def callEnd? (text : List Char) : Option Nat :=
  match (tokenLine text).located.dropWhile (·.token.kind ≠ .leftParen) with
  | [] => none
  | _ :: inside => groupEnd? 1 inside

structure SameArguments (first second : Call) : Prop where
  separatorCount : first.separatorCount = second.separatorCount
  isDirectImport : first.isDirectImport = second.isDirectImport
  argument? : ∀ index, first.argument? index = second.argument? index

theorem sameArguments_iff {first second : Call} :
    SameArguments first second ↔ first.arguments.all = second.arguments.all := by
  constructor
  · intro h
    exact List.ext_getElem? h.argument?
  · intro h
    have hothers : first.arguments.others = second.arguments.others := (List.cons.inj h).2
    refine ⟨?_, ?_, ?_⟩
    · rw [Call.separatorCount, Call.separatorCount, hothers]
    · rw [Call.isDirectImport, Call.isDirectImport, Call.separatorCount, Call.separatorCount,
        hothers]
    · intro index
      rw [Call.argument?, Call.argument?, h]

/-- The tokens up to `closer` are cut into `group`, whatever tokens follow. -/
structure ClosesGroup (inner : Nat) (before : List Token) (closer : Token)
    (group : Arguments) : Prop where
  closes : closer.kind.closes = true
  split : ∀ final after, splitTokens final inner (before ++ closer :: after) =
    { group with rest := closer.text ++ after.flatMap Token.written ++ final }

theorem exists_closesGroup {tokens : List Token} {inner offset stop : Nat}
    (h : groupEnd? (inner + 1) (locateFrom offset tokens) = some stop) :
    ∃ before closer after group, tokens = before ++ closer :: after ∧
      stop = offset + byteSize (before.flatMap Token.written ++ closer.written) ∧
      ClosesGroup inner before closer group := by
  induction tokens generalizing inner offset with
  | nil => simp [locateFrom, groupEnd?] at h
  | cons token tokens ih =>
      -- A token that does not close the group stands before the bracket that does.
      have hcons {inner' : Nat} {group' : Arguments → Arguments}
          (hends : groupEnd? (inner' + 1)
            (locateFrom (offset + byteSize token.gap + byteSize token.text) tokens) = some stop)
          (hkept : ∀ group rest,
            group' { group with rest := rest } = { group' group with rest := rest })
          (hsplit : ∀ final more, splitTokens final inner (token :: more) =
            group' (splitTokens final inner' more)) :
          ∃ before closer after group, token :: tokens = before ++ closer :: after ∧
            stop = offset + byteSize (before.flatMap Token.written ++ closer.written) ∧
            ClosesGroup inner before closer group := by
        obtain ⟨before, closer, after, group, rfl, hstop, hcloses, hgroup⟩ := ih hends
        refine ⟨token :: before, closer, after, group' group, rfl, ?_, hcloses, ?_⟩
        · rw [hstop]
          simp [Token.written]
          omega
        · intro final after'
          rw [List.cons_append, hsplit, hgroup, hkept]
      rw [locateFrom, groupEnd?] at h
      dsimp only at h
      cases hopens : token.kind.opens with
      | true =>
          rw [if_pos hopens] at h
          exact hcons h (fun _ _ => rfl) fun final more => splitTokens_opens final inner more hopens
      | false =>
          rw [if_neg (by simp [hopens])] at h
          cases hcloses : token.kind.closes with
          | true =>
              rw [if_pos hcloses] at h
              cases inner with
              | zero =>
                  cases h
                  refine ⟨[], token, tokens, ⟨token.gap, [], []⟩, rfl, ?_, hcloses, ?_⟩
                  · simp [Token.written, Nat.add_assoc]
                  · exact fun final after => splitTokens_closes_zero final after hopens hcloses
              | succ inner =>
                  rw [if_neg (by omega)] at h
                  exact hcons h (fun _ _ => rfl) fun final more =>
                    splitTokens_closes_succ final inner more hopens hcloses
          | false =>
              rw [if_neg (by simp [hcloses])] at h
              by_cases hcomma : token.kind = .comma ∧ inner = 0
              · obtain ⟨hkind, rfl⟩ := hcomma
                exact hcons h (fun _ _ => rfl) fun final more =>
                  splitTokens_comma final more hkind
              · exact hcons h (fun _ _ => rfl) fun final more =>
                  splitTokens_other final inner more hopens hcloses hcomma

theorem callEnd?_call {name : List Char} (hname : trimmed name = databaseSource)
    (inside : List Char) :
    callEnd? (name ++ '(' :: inside) =
      groupEnd? 1 (locateFrom (byteSize name + 1) (tokenLine inside).tokens) := by
  obtain ⟨opening, hopening, -⟩ := exists_opening hname inside
  rw [callEnd?, hopening]

theorem ClosesGroup.front_eq {before after : List Token} {closer : Token} {group : Arguments}
    {inner : Nat} (h : ClosesGroup inner before closer group)
    (commas : CommaTokens (before ++ closer :: after)) :
    [','].intercalate group.all = before.flatMap Token.written ++ closer.gap := by
  have hwritten := splitTokens_written commas [] inner
  rw [h.split, Arguments.written_eq_intercalate] at hwritten
  have hcancel : [','].intercalate group.all ++ (closer.text ++ after.flatMap Token.written) =
      before.flatMap Token.written ++ closer.gap ++
        (closer.text ++ after.flatMap Token.written) := by
    simpa [Arguments.all, Token.written] using hwritten
  exact List.append_cancel_right hcancel

/-- A text that closes its group is read as far as the closing bracket and from there on
anew. -/
structure Closed (inside front : List Char) (c : Char) : Prop where
  isPrefix : front ++ [c] <+: inside
  front_eq : front = [','].intercalate (splitArguments inside).all
  ending : ∀ tail, (tokenLine (front ++ c :: tail)).ending = (tokenLine tail).ending
  all_eq : ∀ tail, Complete tail →
    (splitArguments (front ++ c :: tail)).all = (splitArguments inside).all

theorem exists_closed {inside final : List Char} {offset stop : Nat}
    (hending : (tokenLine inside).ending = .complete final)
    (h : groupEnd? 1 (locateFrom offset (tokenLine inside).tokens) = some stop) :
    ∃ front c, stop = offset + byteSize (front ++ [c]) ∧ Closed inside front c := by
  obtain ⟨before, closer, after, group, htokens, hstop, hgroup⟩ := exists_closesGroup h
  have hlexes := lexes_tokenLine inside
  rw [show tokenLine inside = ⟨before ++ closer :: after, .complete final⟩ by
    rw [← htokens, ← hending]] at hlexes
  obtain ⟨left, hinside, hfront, hgap, hshape⟩ := hlexes.truncate
  obtain ⟨c, -, hclosing⟩ := hshape.exists_closer hgroup.closes
  have hcuts : closer.kind.cuts = true := by simp [Kind.cuts, hgroup.closes]
  have hall : (splitArguments inside).all = group.all := by
    rw [splitArguments_of_line rfl hending, htokens, hgroup.split]
    rfl
  have hline (tail : List Char) :
      tokenLine (before.flatMap Token.written ++ closer.gap ++ c :: tail) =
        (tokenLine tail).prepend (before ++ [closer]) := by
    have htail : Gap closer.gap (closer.text ++ tail) := hgap.of_head? (by simp [hclosing])
    have hcut := tokenLine_cut hfront htail (hshape.of_cuts hcuts tail) hcuts
    rwa [hclosing] at hcut
  refine ⟨before.flatMap Token.written ++ closer.gap, c, ?_, ⟨left, ?_⟩, ?_, ?_, ?_⟩
  · rw [hstop, Token.written, hclosing, List.append_assoc]
  · rw [hinside, Token.written, hclosing]
    simp
  · rw [hall, hgroup.front_eq (htokens ▸ commaTokens_tokenLine inside)]
  · intro tail
    rw [hline]
    rfl
  · rintro tail ⟨final', hfinal'⟩
    have hsplit := hgroup.split final' (tokenLine tail).tokens
    rw [splitArguments_of_line (hline tail) hfinal', TokenLine.prepend, List.append_assoc,
      List.singleton_append, hsplit, hall]
    rfl

theorem Closed.all_eq_iff {inside front : List Char} {c : Char} (h : Closed inside front c)
    (tail : List Char) :
    (splitArguments (front ++ c :: tail)).all = (splitArguments inside).all ↔
      Complete tail ∨
        c = ')' ∧ ∀ argument ∈ (splitArguments inside).all, ',' ∉ argument ∧ ')' ∉ argument := by
  by_cases htail : Complete tail
  · simp [htail, h.all_eq tail htail]
  · have htext : ¬ Complete (front ++ c :: tail) := by
      rwa [Complete, h.ending tail]
    have hne : (splitArguments inside).all ≠ [] := List.cons_ne_nil _ _
    rw [splitArguments_of_not_complete htext, h.front_eq, splitPlain_intercalate_iff hne]
    simp [htail]

/-! ## Main result -/

theorem complete_iff_accepted {text : List Char} :
    Complete text ↔ (listing text).failure? = none := by
  refine ⟨?_, complete_of_accepted⟩
  rintro ⟨final, hending⟩
  rw [listing_failure?, TokenLine.failure?, hending]

theorem classify_behind_group (expression : List (List Char)) (call : Call) (stop : Nat)
    (classified : classify expression = .ok call)
    (accepted : (listing call.text).failure? = none) (closed : callEnd? call.text = some stop) :
    ∃ cut, takeBytes? stop call.text = some cut ∧
      ∀ lines lhs tail, lines[1]? = some (lhs ++ '=' :: (cut ++ tail)) → '=' ∉ lhs →
        ((listing (cut ++ tail)).failure? = none ↔ (listing tail).failure? = none) ∧
        ∃ call', classify lines = .ok call' ∧ call'.text = cut ++ tail ∧
          (SameArguments call' call ↔
            (listing (cut ++ tail)).failure? = none ∨
              cut.getLast? = some ')' ∧
                ∀ argument ∈ call.arguments.all, ',' ∉ argument ∧ ')' ∉ argument) := by
  obtain ⟨line, lhs, name, inside, -, hcall, hname, rfl⟩ := classify_eq_ok_iff.mp classified
  obtain ⟨final, hending⟩ := complete_of_accepted accepted
  rw [Call.text_splitArguments] at hending closed ⊢
  rw [ending_of_call hname] at hending
  rw [callEnd?_call hname] at closed
  obtain ⟨front, c, hstop, hclosed⟩ := exists_closed hending closed
  refine ⟨name ++ '(' :: (front ++ [c]), ?_, ?_⟩
  · obtain ⟨left, rfl⟩ := hclosed.isPrefix
    rw [takeBytes?_eq_some_iff]
    refine ⟨left, by simp, ?_⟩
    rw [hstop, byteSize_append, ← List.singleton_append, byteSize_append, byteSize_leftParen]
    omega
  · intro lines lhs' tail hline hfree
    have htext : name ++ '(' :: (front ++ [c]) ++ tail = name ++ '(' :: (front ++ c :: tail) := by
      simp
    have hcall' : CallLine (lhs' ++ '=' :: (name ++ '(' :: (front ++ [c]) ++ tail)) lhs' name
        (front ++ c :: tail) := ⟨by rw [htext], hfree, hcall.name_free⟩
    have hcomplete : Complete (name ++ '(' :: (front ++ c :: tail)) ↔ Complete tail := by
      rw [Complete, Complete, ending_of_call hname, hclosed.ending]
    have hlast : (name ++ '(' :: (front ++ [c])).getLast? = some c := by
      rw [← List.cons_append, ← List.append_assoc, List.getLast?_concat]
    rw [← complete_iff_accepted, ← complete_iff_accepted, htext, hcomplete, hlast]
    refine ⟨Iff.rfl, _, classify_eq_ok_iff.mpr ⟨_, lhs', name, _, hline, hcall', hname, rfl⟩,
      Call.text_splitArguments _ _, ?_⟩
    rw [sameArguments_iff, hclosed.all_eq_iff tail]
    simp

/-- The tail ends inside a comment, but neither argument holds a comma or a parenthesis. -/
theorem classify_behind_group_comment :
    ∃ call call',
      classify ["let".toList, "S = Sql.Database(\"srv\", \"db\"), é".toList] = .ok call ∧
      (listing call.text).failure? = none ∧ callEnd? call.text = some 26 ∧
      (listing " Sql.Database(\"srv\", \"db\") /* a, b".toList).failure? ≠ none ∧
      classify ["let".toList, "S = Sql.Database(\"srv\", \"db\") /* a, b".toList] = .ok call' ∧
      SameArguments call' call := by
  have hclassify : classify ["let".toList, "S = Sql.Database(\"srv\", \"db\"), é".toList] =
      .ok ⟨" Sql.Database".toList, ⟨"\"srv\"".toList, [" \"db\"".toList], "), é".toList⟩⟩ := by
    decide +kernel
  obtain ⟨cut, hcut, hbehind⟩ :=
    classify_behind_group _ _ 26 hclassify (by decide +kernel) (by decide +kernel)
  obtain rfl : " Sql.Database(\"srv\", \"db\")".toList = cut := by
    refine Option.some.inj (Eq.trans ?_ hcut)
    decide +kernel
  obtain ⟨-, call', hcall', -, hsame⟩ := hbehind
    ["let".toList, "S = Sql.Database(\"srv\", \"db\") /* a, b".toList] "S ".toList
    " /* a, b".toList (by decide +kernel) (by decide)
  have hplain := hsame.mpr (.inr ⟨by decide +kernel, by decide +kernel⟩)
  exact ⟨_, call', hclassify, by decide +kernel, by decide +kernel, by decide +kernel, hcall',
    hplain⟩

/-- A comment that is not closed gives the commas inside of literals a meaning. -/
theorem classify_open_comment_behind_group :
    ∃ call call',
      classify ["let".toList, "S = Sql.Database(\"srv,1433\", \"db\")".toList] = .ok call ∧
      (listing call.text).failure? = none ∧ callEnd? call.text = some 31 ∧
      takeBytes? 31 call.text = some call.text ∧
      classify ["let".toList, "S = Sql.Database(\"srv,1433\", \"db\") /* note".toList] =
        .ok call' ∧
      call'.text = call.text ++ " /* note".toList ∧
      call'.separatorCount ≠ call.separatorCount ∧
      call'.isDirectImport ≠ call.isDirectImport ∧
      call'.argument? 0 ≠ call.argument? 0 := by
  refine ⟨⟨" Sql.Database".toList, ⟨"\"srv,1433\"".toList, [" \"db\"".toList], ")".toList⟩⟩,
    ⟨" Sql.Database".toList,
      ⟨"\"srv".toList, ["1433\"".toList, " \"db\"".toList], ") /* note".toList⟩⟩,
    ?_, ?_, ?_, ?_, ?_, ?_, ?_, ?_, ?_⟩
  all_goals decide +kernel

end TableLineage.Formula
