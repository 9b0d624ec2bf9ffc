import Mathlib.Data.List.Induction
import TableLineage.Text.Utf16

/-!
# UTF-16 is read exactly

`decode_exact`: a text is read back from its encodings and from nothing else,
under at most one mark.  Reading fails on an odd number of bytes, on a surrogate
without its partner, and never otherwise.
-/

namespace TableLineage.Text.Utf16

theorem isLeading_iff {unit : Nat} : isLeading unit = true ↔ 0xD800 ≤ unit ∧ unit < 0xDC00 := by
  simp [isLeading]

theorem isTrailing_iff {unit : Nat} : isTrailing unit = true ↔ 0xDC00 ≤ unit ∧ unit < 0xE000 := by
  simp [isTrailing]

theorem isTrailing_of_isLeading {unit : Nat} (h : isLeading unit = true) :
    isTrailing unit = false := by
  rw [isLeading_iff] at h
  rw [Bool.eq_false_iff, ne_eq, isTrailing_iff]
  omega

theorem isLeading_of_isTrailing {unit : Nat} (h : isTrailing unit = true) :
    isLeading unit = false := by
  rw [isTrailing_iff] at h
  rw [Bool.eq_false_iff, ne_eq, isLeading_iff]
  omega

/-- A character is one unit that is no surrogate, or a pair of surrogates. -/
theorem unitsOfChar_cases (c : Char) :
    (unitsOfChar c = [c.toNat] ∧ c.toNat < 0x10000 ∧ isLeading c.toNat = false ∧
      isTrailing c.toNat = false) ∨
    ∃ leading trailing, unitsOfChar c = [leading, trailing] ∧ isLeading leading = true ∧
      isTrailing trailing = true ∧ pairCode leading trailing = c.toNat := by
  have hvalid : c.toNat < 0xD800 ∨ 0xDFFF < c.toNat ∧ c.toNat < 0x110000 := c.valid
  by_cases hsmall : c.toNat < 0x10000
  · refine .inl ⟨if_pos hsmall, hsmall, ?_, ?_⟩
    · rw [Bool.eq_false_iff, ne_eq, isLeading_iff]
      omega
    · rw [Bool.eq_false_iff, ne_eq, isTrailing_iff]
      omega
  · refine .inr ⟨_, _, if_neg hsmall, ?_, ?_, ?_⟩
    · rw [isLeading_iff]
      omega
    · rw [isTrailing_iff]
      omega
    · unfold pairCode
      omega

theorem unitsOfChar_of_plain {unit : Nat} (bound : unit < 0x10000)
    (hleading : isLeading unit = false) (htrailing : isTrailing unit = false) :
    unitsOfChar (Char.ofNat unit) = [unit] := by
  have hvalid : unit.isValidChar := by
    rw [Bool.eq_false_iff, ne_eq, isLeading_iff] at hleading
    rw [Bool.eq_false_iff, ne_eq, isTrailing_iff] at htrailing
    change unit < 0xD800 ∨ 0xDFFF < unit ∧ unit < 0x110000
    omega
  have hcode : (Char.ofNat unit).toNat = unit := by
    rw [Char.ofNat, dif_pos hvalid]
    rfl
  rw [unitsOfChar, hcode]
  exact if_pos bound

theorem unitsOfChar_of_pair {leading trailing : Nat} (hleading : isLeading leading = true)
    (htrailing : isTrailing trailing = true) :
    unitsOfChar (Char.ofNat (pairCode leading trailing)) = [leading, trailing] := by
  rw [isLeading_iff] at hleading
  rw [isTrailing_iff] at htrailing
  have hvalid : (pairCode leading trailing).isValidChar := by
    change pairCode leading trailing < 0xD800 ∨
      0xDFFF < pairCode leading trailing ∧ pairCode leading trailing < 0x110000
    unfold pairCode
    omega
  have hcode : (Char.ofNat (pairCode leading trailing)).toNat = pairCode leading trailing := by
    rw [Char.ofNat, dif_pos hvalid]
    rfl
  have hlarge : ¬ pairCode leading trailing < 0x10000 := by
    unfold pairCode
    omega
  have hfirst : 0xD800 + (pairCode leading trailing - 0x10000) / 0x400 = leading := by
    unfold pairCode
    omega
  have hsecond : 0xDC00 + (pairCode leading trailing - 0x10000) % 0x400 = trailing := by
    unfold pairCode
    omega
  simp only [unitsOfChar, hcode]
  rw [if_neg hlarge, hfirst, hsecond]

theorem lt_of_mem_units {text : List Char} : ∀ unit ∈ units text, unit < 0x10000 := by
  intro unit hunit
  obtain ⟨c, -, hunit⟩ := List.mem_flatMap.mp hunit
  rcases unitsOfChar_cases c with ⟨hunits, bound, -, -⟩ |
    ⟨leading, trailing, hunits, hleading, htrailing, -⟩
  · rw [hunits, List.mem_singleton] at hunit
    omega
  · rw [isLeading_iff] at hleading
    rw [isTrailing_iff] at htrailing
    rw [hunits, List.mem_cons, List.mem_singleton] at hunit
    omega

theorem charsFrom_plain {unit : Nat} (hleading : isLeading unit = false)
    (htrailing : isTrailing unit = false) (before : List Char) (rest : List Nat) :
    charsFrom before (unit :: rest) = charsFrom (Char.ofNat unit :: before) rest := by
  cases rest with
  | nil => simp [charsFrom, hleading, htrailing]
  | cons next rest => simp [charsFrom, hleading, htrailing]

theorem charsFrom_pair {leading trailing : Nat} (hleading : isLeading leading = true)
    (htrailing : isTrailing trailing = true) (before : List Char) (rest : List Nat) :
    charsFrom before (leading :: trailing :: rest) =
      charsFrom (Char.ofNat (pairCode leading trailing) :: before) rest := by
  simp [charsFrom, hleading, htrailing]

theorem charsFrom_unitsOfChar (before : List Char) (c : Char) (rest : List Nat) :
    charsFrom before (unitsOfChar c ++ rest) = charsFrom (c :: before) rest := by
  rcases unitsOfChar_cases c with ⟨hunits, -, hleading, htrailing⟩ |
    ⟨leading, trailing, hunits, hleading, htrailing, hcode⟩
  · rw [hunits, List.singleton_append, charsFrom_plain hleading htrailing, Char.ofNat_toNat]
  · rw [hunits, List.cons_append, List.singleton_append, charsFrom_pair hleading htrailing, hcode,
      Char.ofNat_toNat]

theorem charsFrom_units (before text : List Char) :
    charsFrom before (units text) = some (before.reverse ++ text) := by
  induction text generalizing before with
  | nil => simp [units, charsFrom]
  | cons c text ih =>
      have hunits : units (c :: text) = unitsOfChar c ++ units text := rfl
      rw [hunits, charsFrom_unitsOfChar, ih, List.reverse_cons, List.append_assoc,
        List.singleton_append]

theorem chars?_units (text : List Char) : chars? (units text) = some text :=
  charsFrom_units [] text

theorem units_of_charsFrom {before : List Char} {found : List Nat} {text : List Char}
    (bound : ∀ unit ∈ found, unit < 0x10000) (h : charsFrom before found = some text) :
    ∃ tail, text = before.reverse ++ tail ∧ found = units tail := by
  -- The characters already read stay behind in `before`, so only what comes after is compared.
  induction before, found using charsFrom.induct with
  | case1 before =>
      cases h
      exact ⟨[], (List.append_nil _).symm, rfl⟩
  | case2 before unit hsurrogate => simp [charsFrom, hsurrogate] at h
  | case3 before unit hplain =>
      rw [Bool.not_eq_true, Bool.or_eq_false_iff] at hplain
      rw [charsFrom_plain hplain.1 hplain.2, charsFrom] at h
      cases h
      refine ⟨[Char.ofNat unit], List.reverse_cons, ?_⟩
      have hunits := unitsOfChar_of_plain (bound unit List.mem_cons_self) hplain.1 hplain.2
      simp [units, hunits]
  | case4 before leading trailing rest hleading htrailing ih =>
      rw [charsFrom_pair hleading htrailing] at h
      have hrest : ∀ unit ∈ rest, unit < 0x10000 := fun unit hunit =>
        bound unit (List.mem_cons_of_mem _ (List.mem_cons_of_mem _ hunit))
      obtain ⟨tail, rfl, rfl⟩ := ih hrest h
      refine ⟨Char.ofNat (pairCode leading trailing) :: tail, ?_, ?_⟩
      · simp
      · simp [units, unitsOfChar_of_pair hleading htrailing]
  | case5 before leading next rest hleading hnext => simp [charsFrom, hleading, hnext] at h
  | case6 before unit next rest hleading htrailing =>
      simp [charsFrom, hleading, htrailing] at h
  | case7 before unit next rest hleading htrailing ih =>
      rw [Bool.not_eq_true] at hleading htrailing
      rw [charsFrom_plain hleading htrailing] at h
      have hrest : ∀ unit ∈ next :: rest, unit < 0x10000 := fun unit hunit =>
        bound unit (List.mem_cons_of_mem _ hunit)
      obtain ⟨tail, rfl, htail⟩ := ih hrest h
      have hunits := unitsOfChar_of_plain (bound unit List.mem_cons_self) hleading htrailing
      refine ⟨Char.ofNat unit :: tail, ?_, ?_⟩
      · simp
      · rw [htail]
        simp [units, hunits]

theorem chars?_eq_some_iff {found : List Nat} {text : List Char}
    (bound : ∀ unit ∈ found, unit < 0x10000) : chars? found = some text ↔ found = units text := by
  constructor
  · intro h
    obtain ⟨tail, rfl, rfl⟩ := units_of_charsFrom bound h
    rfl
  · rintro rfl
    exact chars?_units text

/-- The unit between two lists is a leading surrogate with no trailing one behind it, or a trailing
one with no leading one before it. -/
def Lone (before : List Nat) (unit : Nat) (after : List Nat) : Prop :=
  (isLeading unit = true ∧ ∀ next ∈ after.head?, isTrailing next = false) ∨
    (isTrailing unit = true ∧ ∀ previous ∈ before.getLast?, isLeading previous = false)

def Unpaired (found : List Nat) : Prop :=
  ∃ before unit after, found = before ++ unit :: after ∧ Lone before unit after

theorem not_unpaired_nil : ¬ Unpaired [] := by
  rintro ⟨before, unit, after, h, -⟩
  exact absurd h (by simp)

theorem Unpaired.append {rest : List Nat} (h : Unpaired rest) (front : List Nat)
    (hlast : ∀ unit ∈ front.getLast?, isLeading unit = false) : Unpaired (front ++ rest) := by
  obtain ⟨before, unit, after, rfl, hlone⟩ := h
  refine ⟨front ++ before, unit, after, by rw [List.append_assoc], ?_⟩
  rcases hlone with hleading | ⟨htrailing, hprevious⟩
  · exact .inl hleading
  · refine .inr ⟨htrailing, fun previous hmem => ?_⟩
    rcases List.eq_nil_or_concat before with rfl | ⟨before, last, rfl⟩
    · rw [List.append_nil] at hmem
      exact hlast previous hmem
    · refine hprevious previous ?_
      simpa using hmem

theorem Lone.of_cons {first unit : Nat} {before after : List Nat}
    (h : Lone (first :: before) unit after) : Lone before unit after := by
  rcases h with hleading | ⟨htrailing, hprevious⟩
  · exact .inl hleading
  · refine .inr ⟨htrailing, ?_⟩
    cases before with
    | nil => simp
    | cons second before => simpa using hprevious

/-- A first unit that is not alone itself leaves every other one as it is. -/
theorem Unpaired.of_cons {first : Nat} {rest : List Nat} (h : Unpaired (first :: rest))
    (hfirst : ¬ Lone [] first rest) : Unpaired rest := by
  obtain ⟨before, unit, after, heq, hlone⟩ := h
  cases before with
  | nil =>
      cases heq
      exact absurd hlone hfirst
  | cons head before =>
      obtain ⟨rfl, rfl⟩ := List.cons.inj heq
      exact ⟨before, unit, after, rfl, hlone.of_cons⟩

theorem unpaired_plain_iff {unit : Nat} {rest : List Nat} (hleading : isLeading unit = false)
    (htrailing : isTrailing unit = false) : Unpaired (unit :: rest) ↔ Unpaired rest := by
  constructor
  · intro h
    refine h.of_cons ?_
    simp [Lone, hleading, htrailing]
  · intro h
    refine h.append [unit] ?_
    simpa using hleading

theorem unpaired_pair_iff {leading trailing : Nat} {rest : List Nat}
    (hleading : isLeading leading = true) (htrailing : isTrailing trailing = true) :
    Unpaired (leading :: trailing :: rest) ↔ Unpaired rest := by
  constructor
  · rintro ⟨before, unit, after, heq, hlone⟩
    rcases before with _ | ⟨first, _ | ⟨second, before⟩⟩
    · cases heq
      simp [Lone, htrailing, isTrailing_of_isLeading hleading] at hlone
    · cases heq
      simp [Lone, hleading, isLeading_of_isTrailing htrailing] at hlone
    · cases heq
      exact ⟨before, unit, after, rfl, hlone.of_cons.of_cons⟩
  · intro h
    refine h.append [leading, trailing] ?_
    simpa using isLeading_of_isTrailing htrailing

theorem charsFrom_eq_none_iff {before : List Char} {found : List Nat} :
    charsFrom before found = none ↔ Unpaired found := by
  induction before, found using charsFrom.induct with
  | case1 before => simp [charsFrom, not_unpaired_nil]
  | case2 before unit hsurrogate =>
      rw [Bool.or_eq_true] at hsurrogate
      have hlone : Lone [] unit [] := by simpa [Lone] using hsurrogate
      refine iff_of_true ?_ ⟨[], unit, [], rfl, hlone⟩
      simp [charsFrom, hsurrogate]
  | case3 before unit hplain =>
      rw [Bool.not_eq_true, Bool.or_eq_false_iff] at hplain
      rw [charsFrom_plain hplain.1 hplain.2, unpaired_plain_iff hplain.1 hplain.2]
      simp [charsFrom, not_unpaired_nil]
  | case4 before leading trailing rest hleading htrailing ih =>
      rw [charsFrom_pair hleading htrailing, unpaired_pair_iff hleading htrailing, ih]
  | case5 before leading next rest hleading hnext =>
      have hlone : Lone [] leading (next :: rest) := by
        refine .inl ⟨hleading, ?_⟩
        simpa using hnext
      refine iff_of_true ?_ ⟨[], leading, next :: rest, rfl, hlone⟩
      simp [charsFrom, hleading, hnext]
  | case6 before unit next rest hleading htrailing =>
      have hlone : Lone [] unit (next :: rest) := .inr ⟨htrailing, by simp⟩
      refine iff_of_true ?_ ⟨[], unit, next :: rest, rfl, hlone⟩
      simp [charsFrom, hleading, htrailing]
  | case7 before unit next rest hleading htrailing ih =>
      rw [Bool.not_eq_true] at hleading htrailing
      rw [charsFrom_plain hleading htrailing, unpaired_plain_iff hleading htrailing, ih]

/-- The units in pairs of bytes, each in the given order. -/
def write (order : ByteOrder) (found : List Nat) : List UInt8 := found.flatMap (bytesOfUnit order)

theorem length_write (order : ByteOrder) (found : List Nat) :
    (write order found).length = 2 * found.length := by
  induction found with
  | nil => rfl
  | cons unit found ih =>
      have hwrite : write order (unit :: found) = bytesOfUnit order unit ++ write order found := rfl
      have hunit : (bytesOfUnit order unit).length = 2 := by cases order <;> rfl
      rw [hwrite, List.length_append, hunit, ih, List.length_cons]
      omega

theorem unitOfBytes_bytesOfUnit {unit : Nat} (bound : unit < 0x10000) :
    unitOfBytes .little (UInt8.ofNat (unit % 256)) (UInt8.ofNat (unit / 256)) = unit ∧
      unitOfBytes .big (UInt8.ofNat (unit / 256)) (UInt8.ofNat (unit % 256)) = unit := by
  simp only [unitOfBytes, UInt8.toNat_ofNat']
  omega

theorem unitsFrom_write {order : ByteOrder} {found : List Nat}
    (bound : ∀ unit ∈ found, unit < 0x10000) (before : List Nat) :
    unitsFrom order before (write order found) = before.reverse ++ found := by
  induction found generalizing before with
  | nil => simp [write, unitsFrom]
  | cons unit found ih =>
      obtain ⟨hunit, hfound⟩ := List.forall_mem_cons.mp bound
      obtain ⟨hlittle, hbig⟩ := unitOfBytes_bytesOfUnit hunit
      have hstep : unitsFrom order before (write order (unit :: found)) =
          unitsFrom order (unit :: before) (write order found) := by
        cases order with
        | little =>
            change unitsFrom _ (unitOfBytes .little _ _ :: before) _ = _
            rw [hlittle]
            rfl
        | big =>
            change unitsFrom _ (unitOfBytes .big _ _ :: before) _ = _
            rw [hbig]
            rfl
      rw [hstep, ih hfound, List.reverse_cons, List.append_assoc, List.singleton_append]

theorem bytesOfUnit_unitOfBytes (order : ByteOrder) (first second : UInt8) :
    unitOfBytes order first second < 0x10000 ∧
      bytesOfUnit order (unitOfBytes order first second) = [first, second] := by
  have hfirst := first.toNat_lt
  have hsecond := second.toNat_lt
  cases order with
  | little =>
      have hlow : (first.toNat + 256 * second.toNat) % 256 = first.toNat := by omega
      have hhigh : (first.toNat + 256 * second.toNat) / 256 = second.toNat := by omega
      refine ⟨by simp only [unitOfBytes]; omega, ?_⟩
      simp [bytesOfUnit, unitOfBytes, hlow, hhigh]
  | big =>
      have hlow : (256 * first.toNat + second.toNat) % 256 = second.toNat := by omega
      have hhigh : (256 * first.toNat + second.toNat) / 256 = first.toNat := by omega
      refine ⟨by simp only [unitOfBytes]; omega, ?_⟩
      simp [bytesOfUnit, unitOfBytes, hlow, hhigh]

/-- An even number of bytes is a sequence of units in either order. -/
theorem exists_write (order : ByteOrder) {bytes : List UInt8} (even : bytes.length % 2 = 0) :
    ∃ found, (∀ unit ∈ found, unit < 0x10000) ∧ bytes = write order found := by
  induction bytes using List.twoStepInduction with
  | nil => exact ⟨[], List.forall_mem_nil _, rfl⟩
  | singleton first => simp at even
  | cons_cons first second bytes ih _ =>
      have hrest : bytes.length % 2 = 0 := by
        simp only [List.length_cons] at even
        omega
      obtain ⟨found, bound, rfl⟩ := ih hrest
      obtain ⟨hunit, hbytes⟩ := bytesOfUnit_unitOfBytes order first second
      refine ⟨unitOfBytes order first second :: found, List.forall_mem_cons.mpr ⟨hunit, bound⟩, ?_⟩
      simp [write, hbytes]

/-- Bytes by the order they are in and what stands behind the mark that tells it, if there is
one. -/
inductive Framed : List UInt8 → ByteOrder → List UInt8 → Prop
  | little (body : List UInt8) : Framed (0xFF :: 0xFE :: body) .little body
  | big (body : List UInt8) : Framed (0xFE :: 0xFF :: body) .big body
  | bare {body : List UInt8} :
      ¬ [0xFF, 0xFE] <+: body → ¬ [0xFE, 0xFF] <+: body → Framed body .little body

theorem framed_marked (bytes : List UInt8) : Framed bytes (marked bytes).1 (marked bytes).2 := by
  unfold marked
  split
  · exact .little _
  · exact .big _
  · next hlittle hbig =>
      refine .bare ?_ ?_
      · rintro ⟨body, rfl⟩
        exact hlittle body rfl
      · rintro ⟨body, rfl⟩
        exact hbig body rfl

theorem Framed.marked_eq {bytes body : List UInt8} {order : ByteOrder}
    (h : Framed bytes order body) : marked bytes = (order, body) := by
  cases h with
  | little => rfl
  | big => rfl
  | bare hlittle hbig =>
      unfold marked
      split
      · exact absurd ⟨_, rfl⟩ hlittle
      · exact absurd ⟨_, rfl⟩ hbig
      · rfl

theorem Framed.length_mod_two {bytes body : List UInt8} {order : ByteOrder}
    (h : Framed bytes order body) : bytes.length % 2 = body.length % 2 := by
  cases h with
  | little => exact Nat.add_mod_right _ 2
  | big => exact Nat.add_mod_right _ 2
  | bare => rfl

theorem encode_eq_write (order : ByteOrder) (text : List Char) :
    encode order text = write order (units text) := rfl

theorem decode_of_framed {bytes : List UInt8} {order : ByteOrder} {found : List Nat}
    (bound : ∀ unit ∈ found, unit < 0x10000) (h : Framed bytes order (write order found)) :
    decode bytes = match chars? found with
      | some text => .ok text
      | none => .error .loneSurrogate := by
  have heven : ¬ bytes.length % 2 = 1 := by
    rw [h.length_mod_two, length_write]
    omega
  cases hchars : chars? found <;>
    simp only [decode, if_neg heven, h.marked_eq, unitsFrom_write bound, List.reverse_nil,
      List.nil_append, hchars]

theorem decode_of_odd {bytes : List UInt8} (h : bytes.length % 2 = 1) :
    decode bytes = .error (.oddLength bytes.length) := if_pos h

theorem exists_framed {bytes : List UInt8} (even : bytes.length % 2 = 0) :
    ∃ order found, (∀ unit ∈ found, unit < 0x10000) ∧ Framed bytes order (write order found) := by
  have hframed := framed_marked bytes
  rw [hframed.length_mod_two] at even
  obtain ⟨found, bound, hbody⟩ := exists_write (marked bytes).1 even
  rw [hbody] at hframed
  exact ⟨_, found, bound, hframed⟩

theorem decode_eq_ok_iff {bytes : List UInt8} {text : List Char} :
    decode bytes = .ok text ↔
      bytes.length % 2 = 0 ∧ ∃ order, Framed bytes order (encode order text) := by
  constructor
  · intro h
    have heven : bytes.length % 2 = 0 := by
      by_contra hodd
      rw [decode_of_odd (by omega)] at h
      cases h
    obtain ⟨order, found, bound, hframed⟩ := exists_framed heven
    rw [decode_of_framed bound hframed] at h
    split at h
    · next hchars =>
        cases h
        obtain rfl := (chars?_eq_some_iff bound).mp hchars
        exact ⟨heven, order, hframed⟩
    · cases h
  · rintro ⟨-, order, hframed⟩
    rw [decode_of_framed lt_of_mem_units hframed, chars?_units]

theorem decode_eq_error_iff {bytes : List UInt8} {error : DecodeError} :
    decode bytes = .error error ↔
      (error = .oddLength bytes.length ∧ bytes.length % 2 = 1) ∨
      (error = .loneSurrogate ∧ ∃ order found, (∀ unit ∈ found, unit < 0x10000) ∧
        Framed bytes order (write order found) ∧ Unpaired found) := by
  rcases Nat.mod_two_eq_zero_or_one bytes.length with heven | hodd
  · obtain ⟨order, found, bound, hframed⟩ := exists_framed heven
    rw [decode_of_framed bound hframed, heven]
    constructor
    · intro h
      split at h
      · cases h
      · next hchars =>
          cases h
          exact .inr ⟨rfl, order, found, bound, hframed, charsFrom_eq_none_iff.mp hchars⟩
    · rintro (⟨-, hodd⟩ | ⟨rfl, order', found', bound', hframed', hunpaired⟩)
      · cases hodd
      · rw [← decode_of_framed bound hframed, decode_of_framed bound' hframed', chars?,
          charsFrom_eq_none_iff.mpr hunpaired]
  · rw [decode_of_odd hodd]
    constructor
    · intro h
      cases h
      exact .inl ⟨rfl, hodd⟩
    · rintro (⟨rfl, -⟩ | ⟨rfl, order, found, -, hframed, -⟩)
      · rfl
      · rw [hframed.length_mod_two, length_write] at hodd
        omega

/-! ## Texts that begin like a mark -/

theorem head?_units_eq_some_iff {mark : Char} {text : List Char}
    (hmark : unitsOfChar mark = [mark.toNat]) :
    (units text).head? = some mark.toNat ↔ text.head? = some mark := by
  cases text with
  | nil => simp [units]
  | cons c text =>
      have hunits : units (c :: text) = unitsOfChar c ++ units text := rfl
      rcases unitsOfChar_cases c with ⟨hc, -, -, -⟩ | ⟨leading, trailing, hc, hleading, -, -⟩
      · rw [hunits, hc]
        simp [Char.toNat_inj]
      · have hne : leading ≠ mark.toNat := by
          rintro rfl
          rcases unitsOfChar_cases mark with ⟨-, -, hplain, -⟩ | ⟨_, _, hpair, -, -, -⟩
          · rw [hplain] at hleading
            cases hleading
          · rw [hmark] at hpair
            cases hpair
        have hc' : c ≠ mark := by
          rintro rfl
          rw [hmark] at hc
          cases hc
        rw [hunits, hc]
        simp [hne, hc']

theorem prefix_write_iff {first second : UInt8} {found : List Nat}
    (bound : ∀ unit ∈ found, unit < 0x10000) :
    [first, second] <+: write .little found ↔
      found.head? = some (unitOfBytes .little first second) := by
  cases found with
  | nil => simp [write]
  | cons unit found =>
      have hwrite : write .little (unit :: found) =
          UInt8.ofNat (unit % 256) :: UInt8.ofNat (unit / 256) :: write .little found := rfl
      rw [hwrite, List.cons_prefix_cons, List.cons_prefix_cons, List.head?_cons,
        Option.some.injEq]
      constructor
      · rintro ⟨rfl, rfl, -⟩
        exact (unitOfBytes_bytesOfUnit (bound unit List.mem_cons_self)).1.symm
      · rintro rfl
        obtain ⟨-, hbytes⟩ := bytesOfUnit_unitOfBytes .little first second
        obtain ⟨hfirst, hsecond⟩ := List.cons.inj hbytes
        exact ⟨hfirst.symm, (List.cons.inj hsecond).1.symm, List.nil_prefix⟩

/-- In little-endian order the bytes of a text begin like a mark only if the text begins with the
character whose unit the mark is, read in this order. -/
theorem prefix_encode_iff {first second : UInt8} {mark : Char} {text : List Char}
    (hmark : unitsOfChar mark = [mark.toNat])
    (hbytes : unitOfBytes .little first second = mark.toNat) :
    [first, second] <+: encode .little text ↔ text.head? = some mark := by
  rw [encode_eq_write, prefix_write_iff lt_of_mem_units, hbytes, head?_units_eq_some_iff hmark]

theorem framed_encode_iff {text : List Char} {order : ByteOrder} :
    Framed (encode .little text) order (encode order text) ↔
      order = .little ∧ text.head? ≠ some '\uFEFF' ∧ text.head? ≠ some '\uFFFE' := by
  have hlittle : [0xFF, 0xFE] <+: encode .little text ↔ text.head? = some '\uFEFF' :=
    prefix_encode_iff (by decide) (by decide)
  have hbig : [0xFE, 0xFF] <+: encode .little text ↔ text.head? = some '\uFFFE' :=
    prefix_encode_iff (by decide) (by decide)
  constructor
  · intro h
    -- A mark would make the bytes longer than the body that the text is written as.
    have hlength {order : ByteOrder} {first second : UInt8}
        (h : encode .little text = first :: second :: encode order text) : False := by
      have hlength := congrArg List.length h
      simp only [List.length_cons, encode_eq_write, length_write] at hlength
      omega
    generalize hbytes : encode .little text = bytes at h
    generalize hbody : encode order text = body at h
    cases h with
    | little =>
        subst hbody
        exact (hlength hbytes).elim
    | big =>
        subst hbody
        exact (hlength hbytes).elim
    | bare hno hno' =>
        rw [← hbytes, hlittle] at hno
        rw [← hbytes, hbig] at hno'
        exact ⟨rfl, hno, hno'⟩
  · rintro ⟨rfl, hno, hno'⟩
    exact .bare (mt hlittle.mp hno) (mt hbig.mp hno')

/-! ## Main result -/

theorem length_encode_mod_two (order : ByteOrder) (text : List Char) :
    (encode order text).length % 2 = 0 := by
  rw [encode_eq_write, length_write]
  omega

theorem decode_exact :
    (∀ text,
      decode (0xFF :: 0xFE :: encode .little text) = .ok text ∧
      decode (0xFE :: 0xFF :: encode .big text) = .ok text ∧
      (decode (encode .little text) = .ok text ↔
        text.head? ≠ some '\uFEFF' ∧ text.head? ≠ some '\uFFFE')) ∧
    (∀ bytes text, decode bytes = .ok text ↔
      bytes.length % 2 = 0 ∧ ∃ order, Framed bytes order (encode order text)) ∧
    ∀ bytes error, decode bytes = .error error ↔
      (error = .oddLength bytes.length ∧ bytes.length % 2 = 1) ∨
      (error = .loneSurrogate ∧ ∃ order found, (∀ unit ∈ found, unit < 0x10000) ∧
        Framed bytes order (write order found) ∧ Unpaired found) := by
  refine ⟨fun text => ?_, fun _ _ => decode_eq_ok_iff, fun _ _ => decode_eq_error_iff⟩
  have hmarked {bytes : List UInt8} {order : ByteOrder}
      (h : Framed bytes order (encode order text)) : decode bytes = .ok text :=
    decode_eq_ok_iff.mpr ⟨h.length_mod_two.trans (length_encode_mod_two order text), order, h⟩
  refine ⟨hmarked (.little _), hmarked (.big _), ?_⟩
  rw [decode_eq_ok_iff]
  constructor
  · rintro ⟨-, order, hframed⟩
    exact (framed_encode_iff.mp hframed).2
  · intro hhead
    exact ⟨length_encode_mod_two .little text, .little, framed_encode_iff.mpr ⟨rfl, hhead⟩⟩

end TableLineage.Text.Utf16
