import TableLineage.Formula.Moves
import TableLineage.Proofs.Formula.Scanner

/-!
# Runs stay inside of the text and come to an end

A character that is looked at and is not zero lies inside of the text, so no
move leads behind its end (`Moment.Inside.of_next?`), and each move either takes
a character or leads to a phase of lower rank (`Moment.goes_of_next?`).  The moves
are those of a scan: `leads_scanFrom` goes through its parts one by one.
-/

namespace TableLineage.Formula

open TableLineage.Text

namespace Scanner

variable {scanner behind : Scanner}

theorem lt_of_peek {places : Nat} (h : scanner.peek places ≠ '\x00') :
    scanner.current + places < scanner.source.length := by
  by_contra hout
  apply h
  simp only [peek, List.getD_eq_getElem?_getD]
  rw [List.getElem?_eq_none (by omega)]
  rfl

theorem past?_eq_some_iff {c : Char} :
    scanner.past? c = some behind ↔ scanner.peek 0 = c ∧ scanner.move 1 = behind := by
  unfold past?
  split <;> simp_all

theorem source_of_past? {c : Char} (h : scanner.past? c = some behind) :
    behind.source = scanner.source := by
  obtain ⟨-, rfl⟩ := past?_eq_some_iff.mp h
  rfl

theorem isAtEnd_iff_le : scanner.isAtEnd = true ↔ scanner.source.length ≤ scanner.current := by
  simp [isAtEnd]

theorem not_isAtEnd_iff_lt :
    ¬ scanner.isAtEnd = true ↔ scanner.current < scanner.source.length := by
  simp [isAtEnd]

theorem isAtEnd_of_budget_zero (h : scanner.source.length - scanner.current ≤ 0) :
    scanner.isAtEnd = true :=
  isAtEnd_iff_le.mpr (Nat.le_of_sub_eq_zero (Nat.le_zero.mp h))

theorem advance_of_lt (h : scanner.current < scanner.source.length) :
    scanner.advance = .ok (scanner.move 1) := by
  rw [advance, if_neg (not_isAtEnd_iff_lt.mpr h)]

theorem eq_move_of_advance (h : scanner.advance = .ok behind) : behind = scanner.move 1 := by
  unfold advance at h
  split at h <;> cases h
  rfl

end Scanner

def Phase.Fits : Phase → Scanner → Prop
  | .token, scanner => scanner.current < scanner.source.length
  | .advance after, scanner =>
      scanner.current < scanner.source.length ∧ after.Fits (scanner.move 1)
  | .finished, scanner => scanner.current = scanner.source.length
  | .stopped (.unclosed _ _), scanner => scanner.current = scanner.source.length
  | .stopped .outside, _ => False
  | _, _ => True

theorem Phase.fits_ofFirst (c : Char) (scanner : Scanner) : (Phase.ofFirst c).Fits scanner := by
  unfold Phase.ofFirst
  split <;> try trivial
  split_ifs <;> trivial

namespace Moment

structure Inside (moment : Moment) : Prop where
  start_le : moment.scanner.start ≤ moment.scanner.current
  current_le : moment.scanner.current ≤ moment.scanner.source.length
  fits : moment.phase.Fits moment.scanner

namespace Inside

variable {moment later : Moment} {phase : Phase}

theorem stay (h : moment.Inside) (fits : phase.Fits moment.scanner) :
    Inside ⟨phase, moment.scanner⟩ :=
  ⟨h.start_le, h.current_le, fits⟩

theorem move (h : moment.Inside) (hlt : moment.scanner.current < moment.scanner.source.length)
    (fits : phase.Fits (moment.scanner.move 1)) : Inside ⟨phase, moment.scanner.move 1⟩ :=
  ⟨Nat.le_succ_of_le h.start_le, hlt, fits⟩

theorem branch {c : Char} {past ahead : Phase} (h : moment.Inside) (hc : c ≠ '\x00')
    (past_fits : past.Fits (moment.scanner.move 1)) (ahead_fits : ahead.Fits moment.scanner) :
    Inside (branch c past ahead moment.scanner) := by
  unfold Moment.branch
  split
  · next hpast =>
      obtain ⟨hpeek, rfl⟩ := Scanner.past?_eq_some_iff.mp hpast
      have hlt : moment.scanner.current < moment.scanner.source.length :=
        Scanner.lt_of_peek (hpeek ▸ hc)
      exact h.move hlt past_fits
  · exact h.stay ahead_fits

/-- Zero is no part of a word, so a word does not go on behind the end. -/
theorem passWord {accepts : Char → Option Char → Bool} {loop : Phase} {kind : Kind}
    (h : moment.Inside) (hends : Scanner.SeesEndAsZero accepts)
    (fits : loop.Fits (moment.scanner.move 1)) :
    Inside (passWord accepts loop kind moment.scanner) := by
  unfold Moment.passWord
  split
  · next haccepts =>
      have hpeek : moment.scanner.peek 0 ≠ '\x00' := by
        intro hzero
        simp [hzero, hends.zero] at haccepts
      exact h.stay ⟨Scanner.lt_of_peek hpeek, fits⟩
  · exact h.stay trivial

theorem of_next? (h : moment.Inside) (hnext : moment.next? = some later) : later.Inside := by
  obtain ⟨phase, scanner⟩ := moment
  have hat_end (hend : scanner.isAtEnd = true) : scanner.current = scanner.source.length :=
    Nat.le_antisymm h.current_le (Scanner.isAtEnd_iff_le.mp hend)
  cases phase with
  | between =>
      simp only [next?] at hnext
      split at hnext <;> cases hnext
      · next hend => exact ⟨h.start_le, h.current_le, hat_end hend⟩
      · next hend => exact ⟨le_rfl, h.current_le, Scanner.not_isAtEnd_iff_lt.mp hend⟩
  | token =>
      cases hnext
      exact h.stay ⟨h.fits, Phase.fits_ofFirst _ _⟩
  | equal | slash | star | hash | closing =>
      cases hnext
      exact h.branch (by decide) trivial trivial
  | letter =>
      simp only [next?] at hnext
      split at hnext <;> cases hnext <;> exact h.stay trivial
  | literal kind =>
      simp only [next?] at hnext
      split at hnext <;> cases hnext
      · next hend => exact h.stay (hat_end hend)
      · next hend =>
          exact h.branch (by decide) trivial ⟨Scanner.not_isAtEnd_iff_lt.mp hend, trivial⟩
  | line =>
      simp only [next?] at hnext
      split at hnext <;> cases hnext
      · exact h.stay trivial
      · next hstop =>
          rw [Bool.or_eq_true, not_or] at hstop
          exact h.stay ⟨Scanner.not_isAtEnd_iff_lt.mp hstop.1, trivial⟩
  | comment =>
      simp only [next?] at hnext
      split at hnext
      · next hend =>
          cases hnext
          exact h.stay (hat_end hend)
      · next hend =>
          have hlt := Scanner.not_isAtEnd_iff_lt.mp hend
          split at hnext <;> cases hnext
          · next hmark =>
              -- the slash is the second character that is taken, and it is not zero
              have hslash : scanner.peek 1 ≠ '\x00' := by
                simp only [Bool.and_eq_true, beq_iff_eq] at hmark
                simp [hmark.2]
              exact h.stay ⟨hlt, Scanner.lt_of_peek hslash, trivial⟩
          · exact h.stay ⟨hlt, trivial⟩
  | number =>
      cases hnext
      exact h.passWord Scanner.seesEndAsZero_inNumber trivial
  | identifier =>
      cases hnext
      exact h.passWord Scanner.seesEndAsZero_inIdentifier trivial
  | advance after =>
      cases hnext
      rw [Scanner.advance_of_lt h.fits.1]
      exact h.move h.fits.1 h.fits.2
  | add kind =>
      cases hnext
      simp only [Scanner.addEntry, h.start_le, h.current_le, and_self, if_true]
      exact ⟨h.start_le, h.current_le, trivial⟩
  | finished | stopped => simp [next?] at hnext

theorem exists_entry {kind : Kind} (h : moment.Inside) (hphase : moment.phase = .add kind) :
    ∃ entry : Entry,
      moment.next? = some
        ⟨.between, { moment.scanner with entries := moment.scanner.entries ++ [entry] }⟩ ∧
      moment.scanner.source.take moment.scanner.current =
        moment.scanner.source.take moment.scanner.start ++ entry.text := by
  obtain ⟨phase, scanner⟩ := moment
  obtain rfl : phase = .add kind := hphase
  let text := (scanner.source.take scanner.current).drop scanner.start
  refine ⟨⟨some kind, text, scanner.offsetAt scanner.start, scanner.offsetAt scanner.current⟩,
    ?_, ?_⟩
  · have hinside := And.intro h.start_le h.current_le
    rw [next?, Scanner.addEntry, if_pos hinside]
    rfl
  · have hstart : scanner.start ≤ scanner.current := h.start_le
    have hfront : (scanner.source.take scanner.current).take scanner.start =
        scanner.source.take scanner.start := by
      rw [List.take_take, Nat.min_eq_left hstart]
    exact hfront ▸ (List.take_append_drop _ _).symm

theorem of_runs {moves : Nat} (h : moment.Inside) (hruns : Runs moment moves later) :
    later.Inside := by
  induction hruns with
  | refl => exact h
  | next hnext _ ih => exact ih (h.of_next? hnext)

theorem at_end {result : Option Stop × Scanner} (h : moment.Inside)
    (houtcome : moment.outcome? = some result) :
    result.1 ≠ some .outside ∧ result.2.current = moment.scanner.source.length := by
  obtain ⟨phase, scanner⟩ := moment
  have hfits := h.fits
  cases phase with
  | finished =>
      cases houtcome
      exact ⟨by simp, hfits⟩
  | stopped stop =>
      cases houtcome
      cases stop with
      | unclosed what offset => exact ⟨by simp, hfits⟩
      | outside => exact absurd hfits id
  | _ => simp [outcome?] at houtcome

theorem reset (scanner : Scanner) : Inside ⟨.between, scanner.reset⟩ :=
  ⟨le_rfl, Nat.zero_le _, trivial⟩

end Inside

end Moment

/-- As long as no character is taken, a scanner goes on to phases of lower rank. -/
def Phase.rank : Phase → Nat
  | .finished | .stopped _ => 0
  | .advance _ => 1
  | .token => 2
  | .between => 3
  | .line | .comment | .literal _ | .add _ => 4
  | .closing _ | .equal | .star | .number | .identifier => 5
  | .slash | .letter => 6
  | .hash => 7

theorem Phase.rank_le (phase : Phase) : phase.rank ≤ 7 := by
  cases phase <;> simp [Phase.rank]

namespace Moment

variable {moment later : Moment}

def weight (moment : Moment) : Nat :=
  8 * (moment.scanner.source.length - moment.scanner.current) + moment.phase.rank

inductive Goes (moment later : Moment) : Prop
  | on : later.scanner.source = moment.scanner.source →
      later.scanner.current = moment.scanner.current →
      later.phase.rank < moment.phase.rank → Goes moment later
  | past : moment.scanner.current < moment.scanner.source.length →
      later.scanner = moment.scanner.move 1 → Goes moment later

theorem goes_branch {c : Char} {past ahead : Phase} (hc : c ≠ '\x00')
    (h : ahead.rank < moment.phase.rank) : Goes moment (branch c past ahead moment.scanner) := by
  unfold branch
  split
  · next hpast =>
      obtain ⟨hpeek, rfl⟩ := Scanner.past?_eq_some_iff.mp hpast
      exact .past (Scanner.lt_of_peek (hpeek ▸ hc)) rfl
  · exact .on rfl rfl h

theorem goes_passWord {accepts : Char → Option Char → Bool} {loop : Phase} {kind : Kind}
    (h : 4 < moment.phase.rank) : Goes moment (passWord accepts loop kind moment.scanner) := by
  unfold passWord
  split
  · refine .on rfl rfl ?_
    change 1 < moment.phase.rank
    omega
  · exact .on rfl rfl h

theorem goes_of_next? (h : moment.next? = some later) : Goes moment later := by
  obtain ⟨phase, scanner⟩ := moment
  cases phase with
  | token =>
      cases h
      exact .on rfl rfl (by simp [Phase.rank])
  | equal | slash | star | hash | closing =>
      cases h
      exact goes_branch (by decide) (by simp [Phase.rank])
  | between | letter | line =>
      simp only [next?] at h
      split at h <;> cases h <;> exact .on rfl rfl (by simp [Phase.rank])
  | literal kind =>
      simp only [next?] at h
      split at h <;> cases h
      · exact .on rfl rfl (by simp [Phase.rank, ofReached, Scanner.unclosed])
      · exact goes_branch (by decide) (by simp [Phase.rank])
  | comment =>
      simp only [next?] at h
      split at h
      · cases h
        exact .on rfl rfl (by simp [Phase.rank, ofReached, Scanner.unclosed])
      · split at h <;> cases h <;> exact .on rfl rfl (by simp [Phase.rank])
  | number | identifier =>
      cases h
      exact goes_passWord (by simp [Phase.rank])
  | advance after =>
      cases h
      unfold Scanner.advance
      split
      · exact .on rfl rfl (by simp [Phase.rank, ofReached])
      · next hend => exact .past (Scanner.not_isAtEnd_iff_lt.mp hend) rfl
  | add kind =>
      cases h
      unfold Scanner.addEntry
      split <;> exact .on rfl rfl (by simp [Phase.rank, ofReached])
  | finished | stopped => simp [next?] at h

theorem Goes.weight_lt (h : Goes moment later) : later.weight < moment.weight := by
  unfold weight
  cases h with
  | on hsource hcurrent hrank =>
      rw [hsource, hcurrent]
      omega
  | past hlt hlater =>
      have hrank := later.phase.rank_le
      simp only [hlater, Scanner.move]
      omega

theorem Goes.source_eq (h : Goes moment later) : later.scanner.source = moment.scanner.source := by
  cases h with
  | on hsource => exact hsource
  | past _ hlater => rw [hlater]; rfl

namespace Runs

variable {moves : Nat}

theorem source_eq (h : Runs moment moves later) :
    later.scanner.source = moment.scanner.source := by
  induction h with
  | refl => rfl
  | next hnext _ ih => exact ih.trans (goes_of_next? hnext).source_eq

theorem weight_add_le (h : Runs moment moves later) : later.weight + moves ≤ moment.weight := by
  induction h with
  | refl => simp
  | next hnext _ ih =>
      have hlt := (goes_of_next? hnext).weight_lt
      omega

/-- Where a run comes back to a phase, or to one of higher rank, it has taken a character. -/
theorem current_lt (h : Runs moment (moves + 1) later)
    (hrank : moment.phase.rank ≤ later.phase.rank) :
    moment.scanner.current < later.scanner.current := by
  have hweight := h.weight_add_le
  rw [weight, weight, h.source_eq] at hweight
  omega

theorem trans {middle : Moment} {more : Nat} (h : Runs moment moves middle)
    (hmore : Runs middle more later) : Runs moment (moves + more) later := by
  induction h with
  | refl => rwa [Nat.zero_add]
  | next hnext _ ih =>
      rw [Nat.add_right_comm]
      exact .next hnext (ih hmore)

end Runs

def Leads (moment : Moment) (after : Phase) (reached : Scanner.Reached) : Prop :=
  ∃ moves, Runs moment moves (ofReached after reached)

namespace Leads

variable {after middle : Phase} {reached : Scanner.Reached}

theorem of_eq (h : moment = ofReached after reached) : Leads moment after reached :=
  ⟨0, h ▸ .refl moment⟩

theorem of_next? (later : Moment) (hnext : moment.next? = some later)
    (h : Leads later after reached) : Leads moment after reached := by
  obtain ⟨moves, hruns⟩ := h
  exact ⟨moves + 1, .next hnext hruns⟩

theorem last (hnext : moment.next? = some (ofReached after reached)) :
    Leads moment after reached :=
  .of_next? _ hnext (.of_eq rfl)

theorem bind {rest : Scanner → Scanner.Reached} (h : Leads moment middle reached)
    (hrest : ∀ scanner, reached = .ok scanner → Leads ⟨middle, scanner⟩ after (rest scanner)) :
    Leads moment after (reached >>= rest) := by
  cases hreached : reached with
  | error stopped =>
      rw [hreached] at h
      exact h
  | ok scanner =>
      rw [hreached] at h
      obtain ⟨moves, hruns⟩ := h
      obtain ⟨more, hmore⟩ := hrest scanner hreached
      exact ⟨moves + more, hruns.trans hmore⟩

end Leads

section Parts

variable {after : Phase} {budget : Nat}

theorem leads_advance (after : Phase) (scanner : Scanner) :
    Leads ⟨.advance after, scanner⟩ after scanner.advance :=
  .last rfl

theorem leads_addEntry (kind : Kind) (scanner : Scanner) :
    Leads ⟨.add kind, scanner⟩ .between (scanner.addEntry kind) :=
  .last rfl

theorem leads_branch {c : Char} {past ahead : Phase} {scanner : Scanner}
    {reached : Scanner.Reached} (hnext : moment.next? = some (branch c past ahead scanner))
    (hpast : ∀ behind, scanner.past? c = some behind → Leads ⟨past, behind⟩ after reached)
    (hahead : scanner.past? c = none → Leads ⟨ahead, scanner⟩ after reached) :
    Leads moment after reached := by
  refine .of_next? _ hnext ?_
  unfold branch
  split
  · next behind h => exact hpast behind h
  · next h => exact hahead h

/-- Once round a loop, with a budget that is enough for the characters ahead. -/
theorem leads_round {loop : Phase} {scanner : Scanner} {rest : Scanner → Scanner.Reached}
    (hbudget : scanner.source.length - scanner.current ≤ budget + 1)
    (hrest : ∀ behind : Scanner, behind.source.length - behind.current ≤ budget →
      Leads ⟨loop, behind⟩ after (rest behind)) :
    Leads ⟨.advance loop, scanner⟩ after (scanner.advance >>= rest) := by
  refine (leads_advance loop scanner).bind fun behind hbehind => hrest behind ?_
  rw [Scanner.eq_move_of_advance hbehind]
  simp only [Scanner.move]
  omega

theorem leads_passWhile {accepts : Char → Option Char → Bool} {loop : Phase} {kind : Kind}
    (hloop : ∀ scanner, next? ⟨loop, scanner⟩ = some (passWord accepts loop kind scanner))
    (hends : Scanner.SeesEndAsZero accepts) {scanner : Scanner}
    (h : scanner.source.length - scanner.current ≤ budget) :
    Leads ⟨loop, scanner⟩ (.add kind)
      (Scanner.passWhile (fun c next => accepts c (some next)) budget scanner) := by
  induction budget generalizing scanner with
  | zero =>
      have hpeek : scanner.peek 0 = '\x00' := by
        by_contra hpeek
        have hlt := Scanner.lt_of_peek hpeek
        omega
      have hstop : accepts (scanner.peek 0) (some (scanner.peek 1)) = false := by
        rw [hpeek, hends.zero]
      refine .last ?_
      simp [hloop, passWord, hstop, Scanner.passWhile, ofReached]
  | succ budget ih =>
      rw [Scanner.passWhile]
      split
      · next haccepts =>
          refine .of_next? ⟨.advance loop, scanner⟩ ?_ (leads_round h fun _ => ih)
          rw [hloop, passWord, if_pos haccepts]
      · next haccepts =>
          refine .last ?_
          rw [hloop, passWord, if_neg haccepts]
          rfl

theorem leads_passLine {scanner : Scanner}
    (h : scanner.source.length - scanner.current ≤ budget) :
    Leads ⟨.line, scanner⟩ .between (Scanner.passLine budget scanner) := by
  induction budget generalizing scanner with
  | zero =>
      have hend := Scanner.isAtEnd_of_budget_zero h
      refine .last ?_
      simp [next?, hend, Scanner.passLine, ofReached]
  | succ budget ih =>
      rw [Scanner.passLine]
      split
      · next hstop =>
          refine .last ?_
          rw [next?, if_pos hstop]
          rfl
      · next hstop =>
          refine .of_next? ⟨.advance .line, scanner⟩ ?_ (leads_round h fun _ => ih)
          rw [next?, if_neg hstop]

theorem leads_closeComment {scanner : Scanner}
    (h : scanner.source.length - scanner.current ≤ budget) :
    Leads ⟨.comment, scanner⟩ .between (Scanner.closeComment budget scanner) := by
  induction budget generalizing scanner with
  | zero =>
      have hend := Scanner.isAtEnd_of_budget_zero h
      refine .last ?_
      rw [next?, if_pos hend]
      rfl
  | succ budget ih =>
      rw [Scanner.closeComment]
      split
      · next hend =>
          refine .last ?_
          rw [next?, if_pos hend]
      · next hend =>
          split
          · next hmark =>
              refine .of_next? ⟨.advance (.advance .between), scanner⟩ ?_ ?_
              · rw [next?, if_neg hend, if_pos hmark]
              · exact (leads_advance _ scanner).bind fun behind _ => leads_advance _ behind
          · next hmark =>
              refine .of_next? ⟨.advance .comment, scanner⟩ ?_ (leads_round h fun _ => ih)
              rw [next?, if_neg hend, if_neg hmark]

theorem leads_closeLiteral {scanner : Scanner} (kind : Kind)
    (h : scanner.source.length - scanner.current ≤ budget) :
    Leads ⟨.literal kind, scanner⟩ (.add kind) (Scanner.closeLiteral budget scanner) := by
  induction budget generalizing scanner with
  | zero =>
      have hend := Scanner.isAtEnd_of_budget_zero h
      refine .last ?_
      rw [next?, if_pos hend]
      rfl
  | succ budget ih =>
      rw [Scanner.closeLiteral]
      split
      · next hend =>
          refine .last ?_
          rw [next?, if_pos hend]
      · next hend =>
          refine leads_branch (by rw [next?, if_neg hend]) (fun behind hpast => ?_) fun hpast => ?_
          · rw [hpast]
            dsimp only
            obtain ⟨-, rfl⟩ := Scanner.past?_eq_some_iff.mp hpast
            refine leads_branch rfl (fun behind' hpast' => ?_) fun hpast' => ?_
            · rw [hpast']
              obtain ⟨-, rfl⟩ := Scanner.past?_eq_some_iff.mp hpast'
              refine ih ?_
              simp only [Scanner.move]
              omega
            · rw [hpast']
              exact .of_eq rfl
          · rw [hpast]
            exact leads_round h fun _ => ih

end Parts

/-! ## Moves of a scan -/

section Tokens

variable (scanner : Scanner)

theorem leads_addLiteral (kind : Kind) :
    Leads ⟨.literal kind, scanner⟩ .between (scanner.addLiteral kind) :=
  (leads_closeLiteral kind (Nat.sub_le _ _)).bind fun behind _ => leads_addEntry kind behind

theorem leads_addNumber : Leads ⟨.number, scanner⟩ .between scanner.addNumber :=
  (leads_passWhile (fun _ => rfl) Scanner.seesEndAsZero_inNumber (Nat.sub_le _ _)).bind
    fun behind _ => leads_addEntry _ behind

theorem leads_addIdentifier : Leads ⟨.identifier, scanner⟩ .between scanner.addIdentifier :=
  (leads_passWhile (fun _ => rfl) Scanner.seesEndAsZero_inIdentifier (Nat.sub_le _ _)).bind
    fun behind _ => leads_addEntry _ behind

theorem leads_addEqual : Leads ⟨.equal, scanner⟩ .between scanner.addEqual := by
  refine leads_branch rfl (fun behind hpast => ?_) fun hpast => ?_
  · simp only [Scanner.addEqual, hpast]
    exact leads_addEntry _ behind
  · simp only [Scanner.addEqual, hpast]
    exact leads_addEntry _ scanner

theorem leads_passComment : Leads ⟨.slash, scanner⟩ .between scanner.passComment := by
  refine leads_branch rfl (fun behind hpast => ?_) fun hpast => ?_
  · simp only [Scanner.passComment, hpast, ← Scanner.source_of_past? hpast]
    exact leads_passLine (Nat.sub_le _ _)
  · refine leads_branch rfl (fun behind hstar => ?_) fun hstar => ?_
    · simp only [Scanner.passComment, hpast, hstar, ← Scanner.source_of_past? hstar]
      exact leads_closeComment (Nat.sub_le _ _)
    · simp only [Scanner.passComment, hpast, hstar]
      exact leads_addEntry _ scanner

theorem leads_addHash : Leads ⟨.hash, scanner⟩ .between scanner.addHash := by
  refine leads_branch rfl (fun behind hpast => ?_) fun hpast => ?_
  · simp only [Scanner.addHash, hpast]
    exact leads_addLiteral behind _
  · simp only [Scanner.addHash, hpast]
    split
    · next hletter =>
        refine .of_next? ⟨.identifier, scanner⟩ ?_ (leads_addIdentifier scanner)
        rw [next?, if_pos hletter]
    · next hletter =>
        refine .of_next? ⟨.add .other, scanner⟩ ?_ (leads_addEntry _ scanner)
        rw [next?, if_neg hletter]

theorem leads_scanToken : Leads ⟨.token, scanner⟩ .between scanner.scanToken := by
  refine .of_next? _ rfl ((leads_advance _ scanner).bind fun behind _ => ?_)
  generalize scanner.peek 0 = c
  split
  iterate 7 exact leads_addEntry _ behind
  · exact leads_addEqual behind
  · exact leads_passComment behind
  · exact leads_addLiteral behind _
  · exact leads_addHash behind
  · unfold Phase.ofFirst
    split
    iterate 11 contradiction
    split_ifs
    · exact .of_eq rfl
    · exact leads_addNumber behind
    · exact leads_addIdentifier behind
    · exact leads_addEntry _ behind

theorem leads_scanFrom (budget : Nat) :
    Leads ⟨.between, scanner⟩ .between (Scanner.scanFrom budget scanner) := by
  induction budget generalizing scanner with
  | zero => exact .of_eq rfl
  | succ budget ih =>
      rw [Scanner.scanFrom]
      split
      · exact .of_eq rfl
      · next hend =>
          refine .of_next? _ ?_ ((leads_scanToken _).bind fun behind _ => ih behind)
          rw [next?, if_neg hend]

end Tokens

theorem current_lt_of_scanToken {scanner behind : Scanner} (h : scanner.scanToken = .ok behind) :
    scanner.current < behind.current := by
  obtain ⟨moves, hruns⟩ := leads_scanToken scanner
  rw [h] at hruns
  cases hruns with
  | next hnext hruns => exact (Runs.next hnext hruns).current_lt (by simp [ofReached, Phase.rank])

theorem source_of_scanToken {scanner behind : Scanner} (h : scanner.scanToken = .ok behind) :
    behind.source = scanner.source := by
  obtain ⟨moves, hruns⟩ := leads_scanToken scanner
  rw [h] at hruns
  exact hruns.source_eq

theorem isAtEnd_of_scanFrom {scanner behind : Scanner} {budget : Nat}
    (h : scanner.source.length - scanner.current ≤ budget)
    (hscan : Scanner.scanFrom budget scanner = .ok behind) : behind.isAtEnd = true := by
  induction budget generalizing scanner with
  | zero =>
      cases hscan
      exact Scanner.isAtEnd_iff_le.mpr (by omega)
  | succ budget ih =>
      rw [Scanner.scanFrom] at hscan
      split at hscan
      · next hend =>
          cases hscan
          exact hend
      · cases htoken : Scanner.scanToken { scanner with start := scanner.current } with
        | error stopped => simp [htoken, bind, Except.bind] at hscan
        | ok middle =>
            rw [htoken] at hscan
            have hlt := current_lt_of_scanToken htoken
            have hsource := source_of_scanToken htoken
            refine ih ?_ hscan
            rw [hsource]
            dsimp only at hlt ⊢
            omega

/-- The moves from the front of the text end with the result of a scan. -/
theorem exists_outcome (scanner : Scanner) :
    ∃ final, scanner.Passes final ∧ final.next? = none ∧ final.outcome? = some scanner.scan := by
  obtain ⟨moves, hruns⟩ := leads_scanFrom scanner.reset scanner.source.length
  rw [Scanner.scan]
  cases hscan : Scanner.scanFrom scanner.source.length scanner.reset with
  | error stopped =>
      rw [hscan] at hruns
      exact ⟨_, ⟨moves, hruns⟩, rfl, rfl⟩
  | ok behind =>
      have hbudget : scanner.reset.source.length - scanner.reset.current ≤ scanner.source.length :=
        Nat.sub_le _ _
      have hend := isAtEnd_of_scanFrom hbudget hscan
      rw [hscan] at hruns
      have hsource : behind.source = scanner.source := hruns.source_eq
      let mark := Entry.endMark (byteSize behind.source)
      have hlast : next? ⟨.between, behind⟩ =
          some ⟨.finished, { behind with entries := behind.entries ++ [mark] }⟩ := by
        rw [next?, if_pos hend]
      refine ⟨_, ⟨_, hruns.trans (.next hlast (.refl _))⟩, rfl, ?_⟩
      simp only [outcome?, mark, hsource]

end Moment

/-! ## Main result -/

/-- In every moment of a run start and cursor stand inside of the text, in this order, and a
character that is taken lies ahead.  No phase is come back to without a character being taken, so
the run is over after a number of moves that the text bounds, and then all of it has been read. -/
theorem scan_inside (scanner : Scanner) :
    (∀ moment, scanner.Passes moment →
      moment.scanner.source = scanner.source ∧
      moment.scanner.start ≤ moment.scanner.current ∧
      moment.scanner.current ≤ scanner.source.length ∧
      (∀ after, moment.phase = .advance after →
        moment.scanner.current < scanner.source.length) ∧
      (∀ kind, moment.phase = .add kind → ∃ entry : Entry,
        moment.next? = some
          ⟨.between, { moment.scanner with entries := moment.scanner.entries ++ [entry] }⟩ ∧
        scanner.source.take moment.scanner.current =
          scanner.source.take moment.scanner.start ++ entry.text) ∧
      moment.phase ≠ .stopped .outside) ∧
    (∀ moment later moves, Moment.Runs moment (moves + 1) later →
      moment.phase = later.phase ∨ moment.phase = .token ∧ later.phase = .between →
      moment.scanner.current < later.scanner.current) ∧
    (∀ token behind : Scanner, token.scanToken = .ok behind → token.current < behind.current) ∧
    (∀ moves moment, Moment.Runs ⟨.between, scanner.reset⟩ moves moment →
      moves ≤ 8 * scanner.source.length + 3) ∧
    ∃ final, scanner.Passes final ∧ final.next? = none ∧ final.outcome? = some scanner.scan ∧
      scanner.scan.1 ≠ some .outside ∧ scanner.scan.2.current = scanner.source.length := by
  refine ⟨?_, ?_, fun _ _ => Moment.current_lt_of_scanToken, ?_, ?_⟩
  · rintro moment ⟨moves, hruns⟩
    have hinside := (Moment.Inside.reset scanner).of_runs hruns
    have hsource : moment.scanner.source = scanner.source := hruns.source_eq
    refine ⟨hsource, hinside.start_le, hsource ▸ hinside.current_le, ?_, ?_, ?_⟩
    · intro after hphase
      have hfits := hinside.fits
      rw [hphase] at hfits
      exact hsource ▸ hfits.1
    · intro kind hphase
      exact hsource ▸ hinside.exists_entry hphase
    · intro hphase
      have hfits := hinside.fits
      rw [hphase] at hfits
      exact hfits
  · rintro moment later moves hruns (hphase | ⟨htoken, hbetween⟩)
    · exact hruns.current_lt (by rw [hphase])
    · exact hruns.current_lt (by simp [htoken, hbetween, Phase.rank])
  · intro moves moment hruns
    have hweight := hruns.weight_add_le
    simp only [Moment.weight, Scanner.reset, Phase.rank] at hweight
    omega
  · obtain ⟨final, hpasses, hover, houtcome⟩ := Moment.exists_outcome scanner
    obtain ⟨moves, hruns⟩ := hpasses
    have hinside := (Moment.Inside.reset scanner).of_runs hruns
    have hsource : final.scanner.source = scanner.source := hruns.source_eq
    have hend := hinside.at_end houtcome
    exact ⟨final, ⟨moves, hruns⟩, hover, houtcome, hend.1, hsource ▸ hend.2⟩

/-- Zeros in a literal and in a comment that is left open. -/
def zeros : Scanner := .ofText ['"', '\x00', '"', '/', '*', '\x00']

theorem scan_inside_zeros :
    zeros.Passes ⟨.literal .string, ⟨zeros.source, [], 0, 1⟩⟩ ∧ 1 ≤ zeros.source.length ∧
    zeros.Passes ⟨.advance (.literal .string), ⟨zeros.source, [], 0, 1⟩⟩ ∧
      1 < zeros.source.length ∧
    Moment.Runs ⟨.literal .string, ⟨zeros.source, [], 0, 1⟩⟩ 2
      ⟨.literal .string, ⟨zeros.source, [], 0, 2⟩⟩ ∧ 1 < 2 ∧
    zeros.scanToken = .ok ⟨zeros.source, [⟨some .string, ['"', '\x00', '"'], 0, 3⟩], 0, 3⟩ ∧ 0 < 3 ∧
    zeros.Passes ⟨.add .string, ⟨zeros.source, [], 0, 3⟩⟩ ∧
      (∃ entry : Entry, zeros.source.take 3 = zeros.source.take 0 ++ entry.text) ∧
    zeros.scan.1 = some (.unclosed .comment 3) ∧ zeros.scan.2.current = zeros.source.length := by
  obtain ⟨hmoments, hagain, htoken, -, -, -, -, -, -, hend⟩ := scan_inside zeros
  have hloop : Moment.Runs ⟨.between, zeros.reset⟩ 3
      ⟨.literal .string, ⟨zeros.source, [], 0, 1⟩⟩ :=
    .next rfl (.next rfl (.next rfl (.refl _)))
  have htake : Moment.Runs ⟨.literal .string, ⟨zeros.source, [], 0, 1⟩⟩ 1
      ⟨.advance (.literal .string), ⟨zeros.source, [], 0, 1⟩⟩ := .next rfl (.refl _)
  have hround : Moment.Runs ⟨.literal .string, ⟨zeros.source, [], 0, 1⟩⟩ 2
      ⟨.literal .string, ⟨zeros.source, [], 0, 2⟩⟩ := .next rfl (.next rfl (.refl _))
  have hclose : Moment.Runs ⟨.literal .string, ⟨zeros.source, [], 0, 2⟩⟩ 2
      ⟨.add .string, ⟨zeros.source, [], 0, 3⟩⟩ := .next rfl (.next rfl (.refl _))
  have hadd := hloop.trans (hround.trans hclose)
  have hscan : zeros.scanToken =
      .ok ⟨zeros.source, [⟨some .string, ['"', '\x00', '"'], 0, 3⟩], 0, 3⟩ := by
    decide +kernel
  obtain ⟨entry, -, htext⟩ := (hmoments _ ⟨_, hadd⟩).2.2.2.2.1 _ rfl
  exact ⟨⟨_, hloop⟩, (hmoments _ ⟨_, hloop⟩).2.2.1, ⟨_, hloop.trans htake⟩,
    (hmoments _ ⟨_, hloop.trans htake⟩).2.2.2.1 _ rfl, hround, hagain _ _ _ hround (.inl rfl),
    hscan, htoken _ _ hscan, ⟨_, hadd⟩, ⟨entry, htext⟩, by decide +kernel, hend⟩

end TableLineage.Formula
