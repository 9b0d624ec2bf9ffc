import TableLineage.Number.Power

/-!
# Binary floating point with 53 significant bits

A magnitude is `mantissa · 2 ^ (scale - 1074)`.  Rounding goes to the nearest
one and from a tie to the even mantissa.  Text is the shortest decimal that
rounds back, positional while the point stands within sixteen digits.
-/

namespace TableLineage.Number

structure Magnitude where
  mantissa : Nat
  scale : Nat
deriving DecidableEq, Repr

namespace Magnitude

def zero : Magnitude := ⟨0, 0⟩

def isZero (a : Magnitude) : Bool := a.mantissa == 0

def largestScale : Nat := 2045

/-- The quotient `n / d` to the nearest whole number, from a tie to the even one. -/
def nearest (n d : Nat) : Nat :=
  let q := n / d
  let r := n % d
  if d < 2 * r ∨ (2 * r = d ∧ q % 2 = 1) then q + 1 else q

/-- The magnitude nearest to `n / d`, unless that is too large for one. -/
def round? (n d : Nat) : Option Magnitude :=
  let scaled := n * twoTo 1074
  let scale := (scaled / d).log2 - 52
  let mantissa := nearest scaled (d * twoTo scale)
  let rounded : Magnitude :=
    if mantissa = twoTo 53 then ⟨twoTo 52, scale + 1⟩ else ⟨mantissa, scale⟩
  if rounded.scale ≤ largestScale then some rounded else none

def mul? (a b : Magnitude) : Option Magnitude :=
  round? (a.mantissa * b.mantissa * twoTo (a.scale + b.scale)) (twoTo 2148)

def div? (a b : Magnitude) : Option Magnitude :=
  round? (a.mantissa * twoTo a.scale) (b.mantissa * twoTo b.scale)

def powerOfTen? (n : Nat) : Option Magnitude := round? (tenTo n) 1

/-- Divides by a power of ten in steps of at most 308 places, each of them rounded. -/
def shrink : Nat → Magnitude → Nat → Option Magnitude
  | 0, _, _ => none
  | budget + 1, a, places =>
      if places ≤ 308 then (powerOfTen? places).bind a.div?
      else if a.isZero then some a
      else
        match (powerOfTen? 308).bind a.div? with
        | some b => shrink budget b (places - 308)
        | none => none

/-- `significand · 10 ^ exponent`, with the significand and the power rounded before they are
put together. -/
def ofDecimal? (significand : Nat) (exponent : Int) : Option Magnitude :=
  match round? significand 1 with
  | none => none
  | some a =>
      match exponent with
      | .ofNat places =>
          if places ≤ 308 then (powerOfTen? places).bind a.mul?
          else if a.isZero then some a
          else none
      | .negSucc places => shrink (places + 1) a (places + 1)

def ratio (a : Magnitude) : Nat × Nat := (a.mantissa * twoTo a.scale, twoTo 1074)

/-- The decimal exponent of the leading digit of `n / d`, given a bound on its size. -/
def leadingPlace (n d : Nat) : Nat → Int
  | 0 => 0
  | budget + 1 =>
      if n < d then leadingPlace (n * 10) d budget - 1
      else if 10 * d ≤ n then leadingPlace n (d * 10) budget + 1
      else 0

/-- The decimals `digits · 10 ^ place` next to `n / d` from below and above that round to `a`. -/
def candidates (a : Magnitude) (place : Int) : List (Nat × Nat) :=
  let (n, d) := a.ratio
  let up := place.toNat
  let down := (-place).toNat
  let n := n * tenTo down
  let d := d * tenTo up
  let below := n / d
  [(below, n - below * d), (below + 1, (below + 1) * d - n)].filter fun (digits, _) =>
    round? (digits * tenTo up) (tenTo down) == some a

/-- The decimal with the fewest digits that rounds to `a`, and the place of its last digit. -/
def shortestFrom (a : Magnitude) (leading : Int) : Nat → Nat → Nat × Int
  | 0, _ => (a.mantissa, 0)
  | budget + 1, count =>
      let place := leading - (count : Int)
      match candidates a place with
      | [(digits, _)] => (digits, place)
      | [(low, lowGap), (high, highGap)] =>
          (if lowGap < highGap ∨ (lowGap = highGap ∧ low % 2 = 0) then low else high, place)
      | _ => shortestFrom a leading budget (count + 1)

def dropZeros : Nat → Nat → Int → Nat × Int
  | 0, digits, place => (digits, place)
  | budget + 1, digits, place =>
      if digits % 10 = 0 ∧ digits ≠ 0 then dropZeros budget (digits / 10) (place + 1)
      else (digits, place)

def shortest (a : Magnitude) : Nat × Int :=
  let (n, d) := a.ratio
  let (digits, place) := shortestFrom a (leadingPlace n d 800) 18 0
  dropZeros 20 digits place

def zeros (n : Nat) : List Char := List.replicate n '0'

def exponentText (exponent : Int) : List Char :=
  (if exponent < 0 then '-' else '+') :: (toString exponent.natAbs).toList

def decimalText (digits : List Char) (place : Int) : List Char :=
  let point := (digits.length : Int) + place
  if 0 ≤ place ∧ point ≤ 16 then digits ++ zeros place.toNat ++ ['.', '0']
  else if 0 < point ∧ point ≤ 16 then digits.take point.toNat ++ '.' :: digits.drop point.toNat
  else if -5 < point ∧ point ≤ 0 then '0' :: '.' :: zeros (-point).toNat ++ digits
  else
    let exponent := exponentText (point - 1)
    match digits with
    | [digit] => digit :: 'e' :: exponent
    | digit :: digits => digit :: '.' :: digits ++ 'e' :: exponent
    | [] => []

def text (a : Magnitude) : List Char :=
  if a.isZero then ['0', '.', '0']
  else
    let (digits, place) := a.shortest
    decimalText (toString digits).toList place

/-- Positional text, however long, with at least one digit behind the point. -/
def plainText (a : Magnitude) : List Char :=
  if a.isZero then ['0', '.', '0']
  else
    let (digits, place) := a.shortest
    let digits := (toString digits).toList
    let point := (digits.length : Int) + place
    if 0 ≤ place then digits ++ zeros place.toNat ++ ['.', '0']
    else if 0 < point then digits.take point.toNat ++ '.' :: digits.drop point.toNat
    else '0' :: '.' :: zeros (-point).toNat ++ digits

end Magnitude

/-- A number as it is read from text: whole within 64 bits, or of floating point. -/
inductive Numeral
  | whole (value : Int)
  | real (negative : Bool) (magnitude : Magnitude)
deriving DecidableEq, Repr

def Numeral.text : Numeral → String
  | .whole value => toString value
  | .real negative magnitude =>
      String.ofList (if negative then '-' :: magnitude.text else magnitude.text)

end TableLineage.Number
