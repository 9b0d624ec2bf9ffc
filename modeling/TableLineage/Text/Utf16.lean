/-!
# UTF-16

A text is a sequence of 16-bit units, each of two bytes in one of two orders.
A mark in front of the units tells the order and belongs to the encoding, not
to the text; without a mark the order is little-endian.
-/

namespace TableLineage.Text.Utf16

def isLeading (unit : Nat) : Bool := 0xD800 ≤ unit && unit < 0xDC00

def isTrailing (unit : Nat) : Bool := 0xDC00 ≤ unit && unit < 0xE000

def pairCode (leading trailing : Nat) : Nat :=
  0x10000 + (leading - 0xD800) * 0x400 + (trailing - 0xDC00)

def unitsOfChar (c : Char) : List Nat :=
  let code := c.toNat
  if code < 0x10000 then [code]
  else [0xD800 + (code - 0x10000) / 0x400, 0xDC00 + (code - 0x10000) % 0x400]

def units (text : List Char) : List Nat := text.flatMap unitsOfChar

/-- `before` holds what was read so far, the last character first. -/
def charsFrom (before : List Char) : List Nat → Option (List Char)
  | [] => some before.reverse
  | [unit] =>
      if isLeading unit || isTrailing unit then none
      else some (Char.ofNat unit :: before).reverse
  | unit :: next :: rest =>
      if isLeading unit then
        if isTrailing next then charsFrom (Char.ofNat (pairCode unit next) :: before) rest
        else none
      else if isTrailing unit then none
      else charsFrom (Char.ofNat unit :: before) (next :: rest)

def chars? (units : List Nat) : Option (List Char) := charsFrom [] units

inductive ByteOrder
  | little | big
deriving DecidableEq, Repr

def unitOfBytes (order : ByteOrder) (first second : UInt8) : Nat :=
  match order with
  | .little => first.toNat + 256 * second.toNat
  | .big => 256 * first.toNat + second.toNat

def bytesOfUnit (order : ByteOrder) (unit : Nat) : List UInt8 :=
  let low := UInt8.ofNat (unit % 256)
  let high := UInt8.ofNat (unit / 256)
  match order with
  | .little => [low, high]
  | .big => [high, low]

def encode (order : ByteOrder) (text : List Char) : List UInt8 :=
  (units text).flatMap (bytesOfUnit order)

/-- The units of a list of bytes in pairs; a byte without a partner is no unit. -/
def unitsFrom (order : ByteOrder) (before : List Nat) : List UInt8 → List Nat
  | first :: second :: bytes => unitsFrom order (unitOfBytes order first second :: before) bytes
  | _ => before.reverse

/-- The order that a mark tells, and what stands behind the mark. -/
def marked : List UInt8 → ByteOrder × List UInt8
  | 0xFF :: 0xFE :: bytes => (.little, bytes)
  | 0xFE :: 0xFF :: bytes => (.big, bytes)
  | bytes => (.little, bytes)

inductive DecodeError
  | oddLength (bytes : Nat)
  | loneSurrogate
deriving DecidableEq, Repr

def DecodeError.reason : DecodeError → String
  | .oddLength bytes => s!"odd number of bytes ({bytes})"
  | .loneSurrogate => "invalid utf-16: lone surrogate found"

def decode (bytes : List UInt8) : Except DecodeError (List Char) :=
  if bytes.length % 2 = 1 then .error (.oddLength bytes.length)
  else
    let (order, body) := marked bytes
    match chars? (unitsFrom order [] body) with
    | some text => .ok text
    | none => .error .loneSurrogate

end TableLineage.Text.Utf16
