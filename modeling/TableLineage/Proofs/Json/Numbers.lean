import TableLineage.Proofs.Json.Taking

/-!
# Numbers that are kept and numbers that are skipped

The form of a number and what it is kept as are said apart from the readers.  A
number that is kept has to fit, one that is skipped has to have the form and
nothing else.
-/

namespace TableLineage.Json

open TableLineage.Number

def AllDigits (text : List Char) : Prop := ∀ c ∈ text, Reader.isDigit c = true

instance (text : List Char) : Decidable (AllDigits text) :=
  List.decidableBAll (Reader.isDigit · = true) text

structure IsWhole (text : List Char) : Prop where
  digits : AllDigits text
  ne_nil : text ≠ []
  zero : text.head? = some '0' → text = ['0']

inductive IsFraction : List Char → List Char → Prop
  | none : IsFraction [] []
  | point : AllDigits digits → digits ≠ [] → IsFraction digits ('.' :: digits)

inductive IsSign : Bool → List Char → Prop
  | none : IsSign false []
  | plus : IsSign false ['+']
  | minus : IsSign true ['-']

inductive IsExponent : Option (Bool × List Char) → List Char → Prop
  | none : IsExponent none []
  | some : letter = 'e' ∨ letter = 'E' → IsSign down sign → AllDigits digits → digits ≠ [] →
      IsExponent (some (down, digits)) (letter :: (sign ++ digits))

structure Decimal where
  whole : List Char
  fraction : List Char
  exponent : Option (Bool × List Char)

inductive Decimal.IsText : Decimal → List Char → Prop
  | intro {whole fraction point power : List Char} {exponent : Option (Bool × List Char)} :
      IsWhole whole → IsFraction fraction point → IsExponent exponent power →
        IsText ⟨whole, fraction, exponent⟩ (whole ++ (point ++ power))

def scaled? (negative : Bool) (significand : Nat) (exponent : Int) : Option Numeral :=
  (Magnitude.ofDecimal? significand exponent).map (.real negative)

/-- The value of the digits of an exponent behind those of `value`, unless it exceeds 31 bits. -/
def exponentValue? : Nat → List Char → Option Nat
  | value, [] => some value
  | value, c :: digits =>
      let grown := value * 10 + Reader.digitValue c
      if grown < Reader.exponentLimit then exponentValue? grown digits else none

def powered? (negative : Bool) (significand : Nat) (shift : Int) :
    Option (Bool × List Char) → Option Numeral
  | none => scaled? negative significand shift
  | some (down, digits) =>
      match exponentValue? 0 digits with
      | some exponent =>
          scaled? negative significand
            (Reader.clampExponent (if down then shift - exponent else shift + exponent))
      | none => if significand = 0 ∨ down then some (.real negative .zero) else none

def integer? (negative : Bool) (significand shift : Nat) : Option Numeral :=
  if 0 < shift then scaled? negative significand shift
  else if !negative then some (.whole significand)
  else if significand = 0 ∨ signedLimit < significand then scaled? true significand 0
  else some (.whole (-significand))

def Decimal.numeral? (negative : Bool) : Decimal → Option Numeral
  | ⟨whole, [], none⟩ =>
      let (significand, count) := Reader.absorb 0 whole
      integer? negative significand (whole.length - count)
  | ⟨whole, [], exponent⟩ =>
      let (significand, count) := Reader.absorb 0 whole
      powered? negative significand (whole.length - count : Nat) exponent
  | ⟨whole, fraction, exponent⟩ =>
      let (significand, count) := Reader.absorb 0 whole
      let (significand, count') := Reader.absorb significand fraction
      powered? negative significand ((whole.length - count : Nat) - count') exponent

namespace Reader

section Takes

variable {limits : Limits} {s t : List Char} {negative down : Bool} {significand : Nat}
  {shift : Int} {numeral : Numeral} {digits text : List Char}

theorem not_isDigit_of_ends (h : Ends t) : ∀ c, t.head? = some c → isDigit c = false := by
  intro c hc
  have hnumber := h c hc
  rw [isNumberChar, Bool.or_eq_false_iff] at hnumber
  exact hnumber.1

theorem takes_digits_append (hdigits : AllDigits digits)
    (ht : ∀ c, t.head? = some c → isDigit c = false) :
    Takes Reader.digits limits (digits ++ t) digits t := by
  have htakes := @takes_digits limits (digits ++ t)
  rw [List.takeWhile_append_of_pos hdigits, List.dropWhile_append_of_pos hdigits] at htakes
  cases t with
  | nil => simpa using htakes
  | cons c t =>
      have hc := ht c rfl
      rwa [List.takeWhile_cons_of_neg (by simp [hc]), List.dropWhile_cons_of_neg (by simp [hc]),
        List.append_nil] at htakes

theorem takes_wholeDigits (h : IsWhole text) (ht : ∀ c, t.head? = some c → isDigit c = false) :
    Takes wholeDigits limits (text ++ t) text t := by
  obtain ⟨c, rest, rfl⟩ := List.exists_cons_of_ne_nil h.ne_nil
  refine .bind (takes_peek _) ?_
  split
  · contradiction
  · next heq =>
      cases heq
      cases h.zero rfl
      refine .bind (takes_skip '0' t) (.bind (takes_peek t) ?_)
      cases hhead : t.head? with
      | none => exact .pure _ t
      | some d =>
          dsimp only
          rw [ht d hhead, if_neg Bool.false_ne_true]
          exact .pure _ t
  · next heq =>
      cases heq
      rw [if_pos (h.digits c List.mem_cons_self)]
      exact takes_digits_append h.digits ht

theorem takes_rounded {magnitude? : Option Magnitude}
    (h : magnitude?.map (.real negative) = some numeral) :
    Takes (rounded negative magnitude?) limits t numeral t := by
  obtain ⟨magnitude, rfl, rfl⟩ := Option.map_eq_some_iff.mp h
  exact .pure _ t

theorem takes_real {exponent : Int} (h : scaled? negative significand exponent = some numeral) :
    Takes (real negative significand exponent) limits t numeral t :=
  takes_rounded h

theorem takes_atExponent (s : List Char) :
    Takes atExponent limits s (s.head? == some 'e' || s.head? == some 'E') s :=
  .bind (takes_peek s) (.pure _ s)

/-- The digits of an exponent are read up to the one that shows that it is too large. -/
theorem takes_exponentFrom (hdigits : AllDigits digits) (ht : Ends t) {budget : Nat}
    (hbudget : digits.length < budget) (value : Nat) :
    ∃ left, AllDigits left ∧ (exponentValue? value digits ≠ none → left = []) ∧
      Takes (exponentFrom budget value) limits (digits ++ t) (exponentValue? value digits)
        (left ++ t) := by
  induction digits generalizing value budget with
  | nil =>
      obtain _ | budget := budget
      · cases hbudget
      refine ⟨[], by simp [AllDigits], fun _ => rfl, .bind (takes_peek t) ?_⟩
      cases hhead : t.head? with
      | none => exact .pure _ t
      | some c =>
          dsimp only
          rw [not_isDigit_of_ends ht c hhead, if_neg Bool.false_ne_true]
          exact .pure _ t
  | cons c digits ih =>
      obtain _ | budget := budget
      · cases hbudget
      obtain ⟨hc, hdigits⟩ := List.forall_mem_cons.mp hdigits
      have hsteps {r : Option Nat} {left : List Char}
          (h : Takes (if value * 10 + digitValue c < exponentLimit then
            exponentFrom budget (value * 10 + digitValue c) else Pure.pure none) limits
              (digits ++ t) r (left ++ t)) :
          Takes (exponentFrom (budget + 1) value) limits (c :: digits ++ t) r (left ++ t) := by
        refine .bind (takes_peek _) ?_
        rw [List.cons_append, List.head?_cons]
        dsimp only
        rw [if_pos hc]
        exact .bind (takes_skip c _) h
      rw [exponentValue?]
      by_cases hgrown : value * 10 + digitValue c < exponentLimit
      · obtain ⟨left, hleft, hnil, htakes⟩ := ih hdigits (by simpa using hbudget) _
        rw [if_pos hgrown]
        exact ⟨left, hleft, hnil, hsteps (by rwa [if_pos hgrown])⟩
      · rw [if_neg hgrown]
        exact ⟨digits, hdigits, fun h => absurd rfl h,
          hsteps (by rw [if_neg hgrown]; exact .pure _ _)⟩

theorem takes_exponentSign {sign : List Char} (h : IsSign down sign)
    (hdigits : AllDigits digits) (ne_nil : digits ≠ []) :
    Takes exponentSign limits (sign ++ (digits ++ t)) down (digits ++ t) := by
  refine .bind (takes_peek _) ?_
  cases h with
  | none =>
      obtain ⟨c, rest, rfl⟩ := List.exists_cons_of_ne_nil ne_nil
      have hc := hdigits c List.mem_cons_self
      split
      · next heq =>
          cases heq
          cases hc
      · next heq =>
          cases heq
          cases hc
      · exact .pure _ _
  | plus => exact .bind (takes_skip '+' _) (.pure _ _)
  | minus => exact .bind (takes_skip '-' _) (.pure _ _)

theorem takes_exponentPart {exponent : Bool × List Char} (h : IsExponent (some exponent) text)
    (ht : Ends t) (hbudget : text.length < limits.steps)
    (hvalue : powered? negative significand shift (some exponent) = some numeral) :
    Takes (exponentPart negative significand shift) limits (text ++ t) numeral t := by
  cases h with
  | @some letter down sign digits hletter hsign hdigits ne_nil =>
      have hbudget : digits.length < limits.steps := by
        simp only [List.length_cons, List.length_append] at hbudget
        omega
      obtain ⟨left, hleft, hnil, htakes⟩ :=
        @takes_exponentFrom limits t digits hdigits ht limits.steps hbudget 0
      rw [List.cons_append, List.append_assoc]
      refine .bind (takes_skip letter _) (.bind (takes_exponentSign hsign hdigits ne_nil)
        (.bind (takes_peek _) ?_))
      obtain ⟨c, rest, rfl⟩ := List.exists_cons_of_ne_nil ne_nil
      rw [List.cons_append, List.head?_cons]
      dsimp only
      rw [if_pos (hdigits c List.mem_cons_self)]
      refine .bind (takes_budget _) (.bind htakes ?_)
      rw [powered?] at hvalue
      cases hexponent : exponentValue? 0 (c :: rest) with
      | some exponent =>
          rw [hexponent] at hvalue hnil
          rw [hnil (Option.some_ne_none _)]
          exact takes_real hvalue
      | none =>
          rw [hexponent] at hvalue
          dsimp only at hvalue ⊢
          split at hvalue
          · next hzero =>
              cases hvalue
              rw [if_pos hzero]
              exact .bind (takes_digits_append hleft (not_isDigit_of_ends ht)) (.pure _ t)
          · cases hvalue

theorem not_isDigit_of_exponent {exponent : Option (Bool × List Char)} {power : List Char}
    (h : IsExponent exponent power) (ht : Ends t) :
    ∀ c, (power ++ t).head? = some c → isDigit c = false := by
  cases h with
  | none => exact not_isDigit_of_ends ht
  | some hletter _ _ _ =>
      intro c hc
      cases hc
      rcases hletter with rfl | rfl <;> rfl

theorem ne_some_of_ends (h : Ends t) {c : Char} (hc : isNumberChar c = true) :
    (t.head? == some c) = false := by
  rw [beq_eq_false_iff_ne]
  intro hhead
  rw [h c hhead] at hc
  cases hc

theorem not_isDigit_of_fraction {fraction point power : List Char}
    {exponent : Option (Bool × List Char)} (hfraction : IsFraction fraction point)
    (hexponent : IsExponent exponent power) (ht : Ends t) :
    ∀ c, (point ++ (power ++ t)).head? = some c → isDigit c = false := by
  cases hfraction with
  | none =>
      rw [List.nil_append]
      exact not_isDigit_of_exponent hexponent ht
  | point =>
      intro c hc
      cases hc
      rfl

theorem ne_point_of_exponent {exponent : Option (Bool × List Char)} {power : List Char}
    (h : IsExponent exponent power) (ht : Ends t) : ((power ++ t).head? == some '.') = false := by
  cases h with
  | none => exact ne_some_of_ends ht rfl
  | some hletter _ _ _ => rcases hletter with rfl | rfl <;> rfl

theorem takes_noExponent (ht : Ends t) : Takes atExponent limits t false t := by
  have htakes := @takes_atExponent limits t
  rwa [ne_some_of_ends ht rfl, ne_some_of_ends ht rfl] at htakes

theorem takes_letter {letter : Char} (h : letter = 'e' ∨ letter = 'E') (s : List Char) :
    Takes atExponent limits (letter :: s) true (letter :: s) := by
  rcases h with rfl | rfl <;> exact takes_atExponent _

theorem takes_fractionPart {fraction power : List Char} {exponent : Option (Bool × List Char)}
    (hfraction : AllDigits fraction) (ne_nil : fraction ≠ []) (h : IsExponent exponent power)
    (ht : Ends t) (hbudget : power.length < limits.steps)
    (hvalue : powered? negative (absorb significand fraction).1
      (shift - (absorb significand fraction).2) exponent = some numeral) :
    Takes (fractionPart negative significand shift) limits ('.' :: (fraction ++ (power ++ t)))
      numeral t := by
  refine .bind (takes_skip '.' _)
    (.bind (takes_digits_append hfraction (not_isDigit_of_exponent h ht)) ?_)
  rw [if_neg (by simpa using ne_nil)]
  cases h with
  | none =>
      refine .bind (takes_noExponent ht) ?_
      rw [if_neg Bool.false_ne_true]
      exact takes_real hvalue
  | @some letter down sign digits hletter hsign hdigits ne_nil =>
      refine .bind (takes_letter hletter _) ?_
      rw [if_pos rfl]
      exact takes_exponentPart (.some hletter hsign hdigits ne_nil) ht hbudget hvalue

theorem takes_number {n : Decimal} (h : n.IsText text) (ht : Ends t)
    (hbudget : text.length < limits.steps) (hvalue : n.numeral? negative = some numeral) :
    Takes (number negative) limits (text ++ t) numeral t := by
  obtain @⟨whole, fraction, point, power, exponent, hwhole, hfraction, hexponent⟩ := h
  rw [List.append_assoc, List.append_assoc]
  have hpower : power.length < limits.steps := by
    simp only [List.length_append] at hbudget
    omega
  have hnext := not_isDigit_of_fraction hfraction hexponent ht
  refine .bind (takes_wholeDigits hwhole hnext) (.bind (takes_peek _) ?_)
  cases hfraction with
  | point hdigits ne_nil =>
      refine takes_fractionPart hdigits ne_nil hexponent ht hpower ?_
      obtain ⟨c, rest, rfl⟩ := List.exists_cons_of_ne_nil ne_nil
      exact hvalue
  | none =>
      have hpoint := ne_point_of_exponent hexponent ht
      cases hexponent with
      | none =>
          rw [List.nil_append, hpoint, if_neg Bool.false_ne_true, List.nil_append]
          refine .bind (takes_noExponent ht) ?_
          rw [if_neg Bool.false_ne_true]
          change integer? negative (absorb 0 whole).1 (whole.length - (absorb 0 whole).2) =
            some numeral at hvalue
          rw [integer?] at hvalue
          split at hvalue
          · next hshift =>
              rw [if_pos hshift]
              exact takes_real hvalue
          · next hshift =>
              rw [if_neg hshift]
              split at hvalue
              · next hpositive =>
                  cases hvalue
                  rw [if_pos hpositive]
                  exact .pure _ t
              · next hpositive =>
                  rw [if_neg hpositive]
                  split at hvalue
                  · next hlarge =>
                      rw [if_pos hlarge]
                      exact takes_real hvalue
                  · next hlarge =>
                      cases hvalue
                      rw [if_neg hlarge]
                      exact .pure _ t
      | @some letter down sign digits hletter hsign hdigits ne_nil =>
          rw [List.nil_append, hpoint, if_neg Bool.false_ne_true]
          refine .bind (takes_letter hletter _) ?_
          rw [if_pos rfl]
          exact takes_exponentPart (.some hletter hsign hdigits ne_nil) ht hpower hvalue

theorem takes_skipExponent {exponent : Bool × List Char} (h : IsExponent (some exponent) text)
    (ht : Ends t) : Takes skipExponent limits (text ++ t) () t := by
  cases h with
  | @some letter down sign digits hletter hsign hdigits ne_nil =>
      rw [List.cons_append, List.append_assoc]
      refine .bind (takes_skip letter _) (.bind (takes_exponentSign hsign hdigits ne_nil)
        (.bind (takes_peek _) ?_))
      obtain ⟨c, rest, rfl⟩ := List.exists_cons_of_ne_nil ne_nil
      rw [List.cons_append, List.head?_cons]
      dsimp only
      rw [if_pos (hdigits c List.mem_cons_self)]
      exact .bind (takes_digits_append hdigits (not_isDigit_of_ends ht)) (.pure _ t)

theorem takes_skipPower {exponent : Option (Bool × List Char)} (h : IsExponent exponent text)
    (ht : Ends t) :
    Takes (do if ← atExponent then skipExponent else Pure.pure ()) limits (text ++ t) () t := by
  cases h with
  | none =>
      refine .bind (takes_noExponent ht) ?_
      rw [if_neg Bool.false_ne_true]
      exact .pure _ t
  | some hletter hsign hdigits ne_nil =>
      refine .bind (takes_letter hletter _) ?_
      rw [if_pos rfl]
      exact takes_skipExponent (.some hletter hsign hdigits ne_nil) ht

theorem takes_skipNumber {n : Decimal} (h : n.IsText text) (ht : Ends t) :
    Takes skipNumber limits (text ++ t) () t := by
  obtain @⟨whole, fraction, point, power, exponent, hwhole, hfraction, hexponent⟩ := h
  obtain ⟨c, rest, rfl⟩ := List.exists_cons_of_ne_nil hwhole.ne_nil
  rw [List.append_assoc, List.append_assoc]
  have hnext := not_isDigit_of_fraction hfraction hexponent ht
  refine .bind (takes_peek _) (.bind (takes_wholeDigits hwhole hnext) (.bind (takes_peek _) ?_))
  cases hfraction with
  | point hdigits ne_nil =>
      refine .bind (takes_skip '.' _)
        (.bind (takes_digits_append hdigits (not_isDigit_of_exponent hexponent ht)) ?_)
      rw [if_neg (by simpa using ne_nil)]
      exact takes_skipPower hexponent ht
  | none =>
      rw [List.nil_append, ne_point_of_exponent hexponent ht, if_neg Bool.false_ne_true]
      exact takes_skipPower hexponent ht

end Takes

/-! ## What is taken has the form of a number -/

section Forms

variable {limits : Limits} {cursor cursor' : Cursor} {negative down : Bool} {significand : Nat}
  {shift : Int} {numeral : Numeral}

theorem digits_form {taken : List Char} (h : digits limits cursor = .ok (taken, cursor')) :
    AllDigits taken ∧ cursor.ahead = taken ++ cursor'.ahead := by
  cases h
  refine ⟨fun c hc => List.mem_takeWhile_imp hc, ?_⟩
  rw [ahead_skipWhile, List.takeWhile_append_dropWhile]

theorem wholeDigits_form {whole : List Char}
    (h : wholeDigits limits cursor = .ok (whole, cursor')) :
    IsWhole whole ∧ cursor.ahead = whole ++ cursor'.ahead := by
  obtain ⟨found, middle, hpeek, h⟩ := bind_eq_ok.mp h
  obtain ⟨hfound, rfl⟩ := peek_eq_ok.mp hpeek
  split at h
  · cases h
  · obtain ⟨_, middle, hskip, h⟩ := bind_eq_ok.mp h
    obtain ⟨found', middle', hpeek', h⟩ := bind_eq_ok.mp h
    obtain ⟨-, rfl⟩ := peek_eq_ok.mp hpeek'
    have hzero : whole = ['0'] ∧ middle = cursor' := by
      split at h
      · split at h
        · exact absurd h failNext_ne_ok
        · exact (pure_eq_ok.mp h).imp Eq.symm id
      · exact (pure_eq_ok.mp h).imp Eq.symm id
    obtain ⟨rfl, rfl⟩ := hzero
    exact ⟨⟨by simp [AllDigits, isDigit], by simp, fun _ => rfl⟩, skip_of_head? hskip hfound⟩
  · next c hc =>
      split at h
      · next hdigit =>
          obtain ⟨hdigits, htaken⟩ := digits_form h
          obtain ⟨rest, hahead⟩ := List.head?_eq_some_iff.mp hfound
          have hwhole : whole = c :: rest.takeWhile isDigit := by
            cases h
            rw [hahead, List.takeWhile_cons_of_pos hdigit]
          refine ⟨⟨hdigits, by simp [hwhole], fun hzero => ?_⟩, htaken⟩
          rw [hwhole] at hzero
          exact absurd (Option.some.inj hzero) hc
      · exact absurd h failNext_ne_ok

theorem exponentSign_form (h : exponentSign limits cursor = .ok (down, cursor')) :
    ∃ sign, IsSign down sign ∧ cursor.ahead = sign ++ cursor'.ahead := by
  obtain ⟨found, middle, hpeek, h⟩ := bind_eq_ok.mp h
  obtain ⟨hfound, rfl⟩ := peek_eq_ok.mp hpeek
  split at h
  · obtain ⟨_, middle, hskip, h⟩ := bind_eq_ok.mp h
    obtain ⟨rfl, rfl⟩ := pure_eq_ok.mp h
    exact ⟨['-'], .minus, skip_of_head? hskip hfound⟩
  · obtain ⟨_, middle, hskip, h⟩ := bind_eq_ok.mp h
    obtain ⟨rfl, rfl⟩ := pure_eq_ok.mp h
    exact ⟨['+'], .plus, skip_of_head? hskip hfound⟩
  · obtain ⟨rfl, rfl⟩ := pure_eq_ok.mp h
    exact ⟨[], .none, rfl⟩

/-- What the digits taken show of the value of an exponent: where it is too large, it stays so
with more digits. -/
structure ShowsExponent (value : Nat) (taken : List Char) (exponent : Option Nat) : Prop where
  digits : AllDigits taken
  some : exponent.isSome → exponentValue? value taken = exponent
  none : exponent = none → ∀ more, exponentValue? value (taken ++ more) = none

theorem exponentFrom_form {budget value : Nat} {exponent : Option Nat}
    (h : exponentFrom budget value limits cursor = .ok (exponent, cursor')) :
    ∃ taken, ShowsExponent value taken exponent ∧ cursor.ahead = taken ++ cursor'.ahead ∧
      (0 < budget → ∀ c, cursor.ahead.head? = some c → isDigit c = true → taken ≠ []) := by
  have hstop {value : Nat} {cursor : Cursor}
      (h : (Pure.pure (some value) : Reader (Option Nat)) limits cursor =
        .ok (exponent, cursor')) :
      ShowsExponent value [] exponent ∧ cursor = cursor' := by
    obtain ⟨rfl, rfl⟩ := pure_eq_ok.mp h
    exact ⟨⟨by simp [AllDigits], fun _ => rfl, by rintro ⟨⟩⟩, rfl⟩
  induction budget generalizing cursor value with
  | zero =>
      obtain ⟨hshows, rfl⟩ := hstop h
      exact ⟨[], hshows, rfl, by omega⟩
  | succ budget ih =>
      obtain ⟨found, middle, hpeek, h⟩ := bind_eq_ok.mp h
      obtain ⟨hfound, rfl⟩ := peek_eq_ok.mp hpeek
      split at h
      · next c =>
          split at h
          · next hdigit =>
              obtain ⟨_, middle, hskip, h⟩ := bind_eq_ok.mp h
              have hahead := skip_of_head? hskip hfound
              split at h
              · next hgrown =>
                  obtain ⟨taken, hshows, htaken, -⟩ := ih h
                  refine ⟨c :: taken, ⟨List.forall_mem_cons.mpr ⟨hdigit, hshows.digits⟩,
                    fun h => ?_, fun h more => ?_⟩, by rw [hahead, htaken]; rfl, by simp⟩
                  · rw [exponentValue?, if_pos hgrown, hshows.some h]
                  · rw [List.cons_append, exponentValue?, if_pos hgrown, hshows.none h]
              · next hgrown =>
                  obtain ⟨rfl, rfl⟩ := pure_eq_ok.mp h
                  refine ⟨[c], ⟨by simpa [AllDigits] using hdigit, by rintro ⟨⟩, fun _ more => ?_⟩,
                    hahead, by simp⟩
                  rw [List.singleton_append, exponentValue?, if_neg hgrown]
          · next hdigit =>
              obtain ⟨hshows, rfl⟩ := hstop h
              refine ⟨[], hshows, rfl, fun _ d hd hdigit' => ?_⟩
              rw [hfound] at hd
              cases hd
              exact absurd hdigit' hdigit
      · obtain ⟨hshows, rfl⟩ := hstop h
        exact ⟨[], hshows, rfl, by simp [hfound]⟩

theorem real_eq_ok {exponent : Int}
    (h : real negative significand exponent limits cursor = .ok (numeral, cursor')) :
    scaled? negative significand exponent = some numeral ∧ cursor = cursor' := by
  rw [real] at h
  rw [scaled?]
  cases hmagnitude : Magnitude.ofDecimal? significand exponent with
  | none =>
      rw [hmagnitude] at h
      cases h
  | some magnitude =>
      rw [hmagnitude] at h
      obtain ⟨rfl, rfl⟩ := pure_eq_ok.mp h
      exact ⟨rfl, rfl⟩

theorem exponentPart_form {letter : Char} (hsteps : 0 < limits.steps)
    (hfound : cursor.ahead.head? = some letter) (hletter : letter = 'e' ∨ letter = 'E')
    (h : exponentPart negative significand shift limits cursor = .ok (numeral, cursor')) :
    ∃ exponent text, IsExponent (some exponent) text ∧ cursor.ahead = text ++ cursor'.ahead ∧
      powered? negative significand shift (some exponent) = some numeral := by
  obtain ⟨_, middle₁, hskip, h⟩ := bind_eq_ok.mp h
  obtain ⟨down, middle₂, hsign, h⟩ := bind_eq_ok.mp h
  obtain ⟨digit, middle₃, hpeek, h⟩ := bind_eq_ok.mp h
  obtain ⟨hdigit, rfl⟩ := peek_eq_ok.mp hpeek
  obtain ⟨sign, hsign, hsigned⟩ := exponentSign_form hsign
  have hahead := skip_of_head? hskip hfound
  split at h
  · exact absurd h failHere_ne_ok
  · next c =>
      split at h
      · next hc =>
          obtain ⟨steps, _, hbudget, h⟩ := bind_eq_ok.mp h
          cases hbudget
          obtain ⟨value, middle₄, hvalue, h⟩ := bind_eq_ok.mp h
          obtain ⟨taken, hshows, htaken, hne⟩ := exponentFrom_form hvalue
          have ne_nil := hne hsteps c hdigit hc
          cases value with
          | some value =>
              obtain ⟨hnumeral, rfl⟩ := real_eq_ok h
              refine ⟨(down, taken), _, .some hletter hsign hshows.digits ne_nil, ?_, ?_⟩
              · rw [hahead, hsigned, htaken]
                simp
              · rw [powered?, hshows.some rfl]
                exact hnumeral
          | none =>
              dsimp only at h
              split at h
              · next hzero =>
                  obtain ⟨more, middle₅, hmore, h⟩ := bind_eq_ok.mp h
                  obtain ⟨rfl, rfl⟩ := pure_eq_ok.mp h
                  obtain ⟨hmore, hleft⟩ := digits_form hmore
                  have hdigits : AllDigits (taken ++ more) := List.forall_mem_append.mpr
                    ⟨hshows.digits, hmore⟩
                  refine ⟨(down, taken ++ more), _, .some hletter hsign hdigits (by simp [ne_nil]),
                    ?_, ?_⟩
                  · rw [hahead, hsigned, htaken, hleft]
                    simp
                  · rw [powered?, hshows.none rfl]
                    exact if_pos hzero
              · exact absurd h failHere_ne_ok
      · exact absurd h failNext_ne_ok

theorem atExponent_eq_ok {letter : Bool}
    (h : atExponent limits cursor = .ok (letter, cursor')) :
    cursor = cursor' ∧ (letter = true →
      ∃ c, cursor.ahead.head? = some c ∧ (c = 'e' ∨ c = 'E')) := by
  obtain ⟨found, middle, hpeek, h⟩ := bind_eq_ok.mp h
  obtain ⟨hfound, rfl⟩ := peek_eq_ok.mp hpeek
  obtain ⟨rfl, rfl⟩ := pure_eq_ok.mp h
  refine ⟨rfl, fun hletter => ?_⟩
  rw [Bool.or_eq_true, beq_iff_eq, beq_iff_eq] at hletter
  exact hletter.elim (fun h => ⟨'e', hfound.trans h, .inl rfl⟩)
    fun h => ⟨'E', hfound.trans h, .inr rfl⟩

theorem fractionPart_form (hsteps : 0 < limits.steps)
    (hfound : cursor.ahead.head? = some '.')
    (h : fractionPart negative significand shift limits cursor = .ok (numeral, cursor')) :
    ∃ fraction point exponent power, IsFraction fraction point ∧ fraction ≠ [] ∧
      IsExponent exponent power ∧ cursor.ahead = point ++ (power ++ cursor'.ahead) ∧
      powered? negative (absorb significand fraction).1
        (shift - (absorb significand fraction).2) exponent = some numeral := by
  obtain ⟨_, middle₁, hskip, h⟩ := bind_eq_ok.mp h
  obtain ⟨fraction, middle₂, hfraction, h⟩ := bind_eq_ok.mp h
  obtain ⟨hdigits, htaken⟩ := digits_form hfraction
  have hahead := skip_of_head? hskip hfound
  split at h
  · obtain ⟨found, _, -, h⟩ := bind_eq_ok.mp h
    cases found with
    | some c => exact absurd h failNext_ne_ok
    | none => exact absurd h failHere_ne_ok
  · next hempty =>
      have ne_nil : fraction ≠ [] := by simpa using hempty
      obtain ⟨letter, middle₃, hat, h⟩ := bind_eq_ok.mp h
      obtain ⟨rfl, hletter⟩ := atExponent_eq_ok hat
      cases letter with
      | true =>
          obtain ⟨c, hc, hletter⟩ := hletter rfl
          obtain ⟨exponent, power, hexponent, hpower, hnumeral⟩ :=
            exponentPart_form hsteps hc hletter h
          refine ⟨fraction, _, some exponent, power, .point hdigits ne_nil, ne_nil, hexponent, ?_,
            hnumeral⟩
          rw [hahead, htaken, hpower]
          simp
      | false =>
          rw [if_neg Bool.false_ne_true] at h
          obtain ⟨hnumeral, rfl⟩ := real_eq_ok h
          refine ⟨fraction, _, none, [], .point hdigits ne_nil, ne_nil, .none, ?_, hnumeral⟩
          rw [hahead, htaken]
          simp

theorem number_form (hsteps : 0 < limits.steps)
    (h : number negative limits cursor = .ok (numeral, cursor')) :
    ∃ (n : Decimal) (text : List Char), n.IsText text ∧ cursor.ahead = text ++ cursor'.ahead ∧
      n.numeral? negative = some numeral := by
  obtain ⟨whole, middle, hwhole, h⟩ := bind_eq_ok.mp h
  obtain ⟨hwhole, hahead⟩ := wholeDigits_form hwhole
  obtain ⟨found, middle', hpeek, h⟩ := bind_eq_ok.mp h
  obtain ⟨hfound, rfl⟩ := peek_eq_ok.mp hpeek
  split at h
  · next hpoint =>
      obtain ⟨fraction, point, exponent, power, hfraction, ne_nil, hexponent, hpower, hnumeral⟩ :=
        fractionPart_form hsteps (hfound.trans (beq_iff_eq.mp hpoint)) h
      refine ⟨⟨whole, fraction, exponent⟩, _, .intro hwhole hfraction hexponent, ?_, ?_⟩
      · rw [hahead, hpower]
        simp
      · obtain ⟨c, rest, rfl⟩ := List.exists_cons_of_ne_nil ne_nil
        exact hnumeral
  · obtain ⟨letter, middle', hat, h⟩ := bind_eq_ok.mp h
    obtain ⟨rfl, hletter⟩ := atExponent_eq_ok hat
    cases letter with
    | true =>
        obtain ⟨c, hc, hletter⟩ := hletter rfl
        obtain ⟨exponent, power, hexponent, hpower, hnumeral⟩ :=
          exponentPart_form hsteps hc hletter h
        refine ⟨⟨whole, [], some exponent⟩, _, .intro hwhole .none hexponent, ?_, hnumeral⟩
        rw [hahead, hpower]
        simp
    | false =>
        rw [if_neg Bool.false_ne_true] at h
        have hinteger : integer? negative (absorb 0 whole).1 (whole.length - (absorb 0 whole).2) =
            some numeral ∧ middle = cursor' := by
          rw [integer?]
          split at h
          · next hshift =>
              rw [if_pos hshift]
              exact real_eq_ok h
          · next hshift =>
              rw [if_neg hshift]
              split at h
              · next hpositive =>
                  rw [if_pos hpositive]
                  exact (pure_eq_ok.mp h).imp (congrArg some) id
              · next hpositive =>
                  rw [if_neg hpositive]
                  split at h
                  · next hlarge =>
                      rw [if_pos hlarge]
                      exact real_eq_ok h
                  · next hlarge =>
                      rw [if_neg hlarge]
                      exact (pure_eq_ok.mp h).imp (congrArg some) id
        obtain ⟨hnumeral, rfl⟩ := hinteger
        exact ⟨⟨whole, [], none⟩, _, .intro hwhole .none .none, by simpa using hahead, hnumeral⟩

theorem skipExponent_form {letter : Char} (hfound : cursor.ahead.head? = some letter)
    (hletter : letter = 'e' ∨ letter = 'E')
    (h : skipExponent limits cursor = .ok ((), cursor')) :
    ∃ exponent text, IsExponent (some exponent) text ∧ cursor.ahead = text ++ cursor'.ahead := by
  obtain ⟨_, middle₁, hskip, h⟩ := bind_eq_ok.mp h
  obtain ⟨down, middle₂, hsign, h⟩ := bind_eq_ok.mp h
  obtain ⟨digit, middle₃, hpeek, h⟩ := bind_eq_ok.mp h
  obtain ⟨hdigit, rfl⟩ := peek_eq_ok.mp hpeek
  obtain ⟨sign, hsign, hsigned⟩ := exponentSign_form hsign
  have hahead := skip_of_head? hskip hfound
  split at h
  · next c =>
      split at h
      · next hc =>
          obtain ⟨digits, middle₄, hdigits, h⟩ := bind_eq_ok.mp h
          obtain ⟨-, rfl⟩ := pure_eq_ok.mp h
          obtain ⟨rest, hrest⟩ := List.head?_eq_some_iff.mp hdigit
          have ne_nil : digits ≠ [] := by
            cases hdigits
            rw [hrest, List.takeWhile_cons_of_pos hc]
            exact List.cons_ne_nil _ _
          obtain ⟨hdigits, htaken⟩ := digits_form hdigits
          refine ⟨(down, digits), _, .some hletter hsign hdigits ne_nil, ?_⟩
          rw [hahead, hsigned, htaken]
          simp
      · exact absurd h failNext_ne_ok
  · exact absurd h failHere_ne_ok

theorem skipPower_form
    (h : (do if ← atExponent then skipExponent else Pure.pure ()) limits cursor =
      .ok ((), cursor')) :
    ∃ exponent power, IsExponent exponent power ∧ cursor.ahead = power ++ cursor'.ahead := by
  obtain ⟨letter, middle, hat, h⟩ := bind_eq_ok.mp h
  obtain ⟨rfl, hletter⟩ := atExponent_eq_ok hat
  cases letter with
  | true =>
      obtain ⟨c, hc, hletter⟩ := hletter rfl
      obtain ⟨exponent, power, hexponent, hpower⟩ := skipExponent_form hc hletter h
      exact ⟨some exponent, power, hexponent, hpower⟩
  | false =>
      obtain ⟨-, rfl⟩ := pure_eq_ok.mp h
      exact ⟨none, [], .none, rfl⟩

theorem skipNumber_form (h : skipNumber limits cursor = .ok ((), cursor')) :
    ∃ (n : Decimal) (text : List Char), n.IsText text ∧ cursor.ahead = text ++ cursor'.ahead := by
  obtain ⟨found, middle, hpeek, h⟩ := bind_eq_ok.mp h
  obtain ⟨hfound, rfl⟩ := peek_eq_ok.mp hpeek
  split at h
  · obtain ⟨_, _, hfail, -⟩ := bind_eq_ok.mp h
    exact absurd hfail failHere_ne_ok
  · obtain ⟨whole, middle, hwhole, h⟩ := bind_eq_ok.mp h
    obtain ⟨hwhole, hahead⟩ := wholeDigits_form hwhole
    obtain ⟨found', middle', hpeek', h⟩ := bind_eq_ok.mp h
    obtain ⟨hfound', rfl⟩ := peek_eq_ok.mp hpeek'
    split at h
    · next hpoint =>
        obtain ⟨_, middle₁, hskip, h⟩ := bind_eq_ok.mp h
        obtain ⟨fraction, middle₂, hfraction, h⟩ := bind_eq_ok.mp h
        obtain ⟨hdigits, htaken⟩ := digits_form hfraction
        split at h
        · exact absurd h failNext_ne_ok
        · next hempty =>
            obtain ⟨exponent, power, hexponent, hpower⟩ := skipPower_form h
            have ne_nil : fraction ≠ [] := by simpa using hempty
            refine ⟨⟨whole, fraction, exponent⟩, _,
              .intro hwhole (.point hdigits ne_nil) hexponent, ?_⟩
            rw [hahead, skip_of_head? hskip (hfound'.trans (beq_iff_eq.mp hpoint)), htaken, hpower]
            simp
    · obtain ⟨exponent, power, hexponent, hpower⟩ := skipPower_form h
      refine ⟨⟨whole, [], exponent⟩, _, .intro hwhole .none hexponent, ?_⟩
      rw [hahead, hpower]
      simp

end Forms

end Reader

/-! ## Texts of numbers -/

theorem AllDigits.isNumberChar {text : List Char} (h : AllDigits text) :
    ∀ c ∈ text, isNumberChar c = true := by
  intro c hc
  rw [Json.isNumberChar, h c hc, Bool.true_or]

theorem IsFraction.isNumberChar {digits text : List Char} (h : IsFraction digits text) :
    ∀ c ∈ text, isNumberChar c = true := by
  cases h with
  | none => simp
  | point hdigits => exact List.forall_mem_cons.mpr ⟨rfl, hdigits.isNumberChar⟩

theorem IsSign.isNumberChar {down : Bool} {text : List Char} (h : IsSign down text) :
    ∀ c ∈ text, isNumberChar c = true := by
  cases h <;> simp [Json.isNumberChar]

theorem IsExponent.isNumberChar {exponent : Option (Bool × List Char)} {text : List Char}
    (h : IsExponent exponent text) : ∀ c ∈ text, isNumberChar c = true := by
  cases h with
  | none => simp
  | some hletter hsign hdigits =>
      refine List.forall_mem_cons.mpr ⟨?_, List.forall_mem_append.mpr
        ⟨hsign.isNumberChar, hdigits.isNumberChar⟩⟩
      rcases hletter with rfl | rfl <;> rfl

theorem Decimal.IsText.exists_cons {n : Decimal} {text : List Char} (h : n.IsText text) :
    ∃ c rest, text = c :: rest ∧ Reader.isDigit c = true ∧ ∀ d ∈ rest, isNumberChar d = true := by
  obtain @⟨whole, fraction, point, power, exponent, hwhole, hfraction, hexponent⟩ := h
  obtain ⟨c, rest, rfl⟩ := List.exists_cons_of_ne_nil hwhole.ne_nil
  obtain ⟨hc, hrest⟩ := List.forall_mem_cons.mp hwhole.digits
  refine ⟨c, _, rfl, hc, ?_⟩
  exact List.forall_mem_append.mpr ⟨AllDigits.isNumberChar hrest,
    List.forall_mem_append.mpr ⟨hfraction.isNumberChar, hexponent.isNumberChar⟩⟩

inductive IsNumber : Bool → Decimal → List Char → Prop
  | positive : n.IsText text → IsNumber false n text
  | negative : n.IsText text → IsNumber true n ('-' :: text)

theorem IsNumber.written {negative : Bool} {n : Decimal} {text : List Char}
    (h : IsNumber negative n text) (t : List Char) :
    Written (.value (.number text)) (text ++ t) t := by
  cases h with
  | positive h =>
      obtain ⟨c, rest, rfl, hc, hrest⟩ := h.exists_cons
      exact .number (.inr hc) hrest rfl
  | negative h =>
      obtain ⟨c, rest, rfl, hc, hrest⟩ := h.exists_cons
      refine .number (.inl rfl) (List.forall_mem_cons.mpr ⟨?_, hrest⟩) rfl
      rw [isNumberChar, hc, Bool.true_or]

end TableLineage.Json
