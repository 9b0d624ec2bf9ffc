/-!
# UTF-8

Offsets into text are counted in the bytes that it takes up as UTF-8.  The
size of a text is the sum of the sizes of its characters, so offsets add up
over parts.

Any bytes can be shown as text: where they are none, the start of a character
that does not go on is replaced, and so is a byte that starts no character.
-/

namespace TableLineage.Text

def byteSize (text : List Char) : Nat := text.foldr (fun c size => c.utf8Size + size) 0

@[simp] theorem byteSize_nil : byteSize [] = 0 := rfl

@[simp] theorem byteSize_cons (c : Char) (text : List Char) :
    byteSize (c :: text) = c.utf8Size + byteSize text := rfl

@[simp] theorem byteSize_append (a b : List Char) :
    byteSize (a ++ b) = byteSize a + byteSize b := by
  induction a with
  | nil => simp
  | cons c a ih => simp [ih, Nat.add_assoc]

namespace Utf8

def encode (text : List Char) : List UInt8 := text.flatMap String.utf8EncodeChar

def replacement : Char := '\uFFFD'

/-- A character of which bytes are still to come, the next of them in a range. -/
structure Begun where
  value : Nat
  /-- How many bytes come behind the next one. -/
  further : Nat
  least : Nat
  most : Nat
  not_ascii : 0x80 ≤ least

/-- What a byte outside of a character reads as, and the character that it begins. -/
def first (byte : Nat) : List Char × Option Begun :=
  if byte < 0x80 then ([Char.ofNat byte], none)
  else if byte < 0xC2 then ([replacement], none)
  else if byte < 0xE0 then ([], some ⟨byte - 0xC0, 0, 0x80, 0xBF, by decide⟩)
  else if byte = 0xE0 then ([], some ⟨0, 1, 0xA0, 0xBF, by decide⟩)
  else if byte = 0xED then ([], some ⟨0xD, 1, 0x80, 0x9F, by decide⟩)
  else if byte < 0xF0 then ([], some ⟨byte - 0xE0, 1, 0x80, 0xBF, by decide⟩)
  else if byte = 0xF0 then ([], some ⟨0, 2, 0x90, 0xBF, by decide⟩)
  else if byte < 0xF4 then ([], some ⟨byte - 0xF0, 2, 0x80, 0xBF, by decide⟩)
  else if byte = 0xF4 then ([], some ⟨4, 2, 0x80, 0x8F, by decide⟩)
  else ([replacement], none)

def Begun.next (begun : Begun) (byte : Nat) : List Char × Option Begun :=
  if begun.least ≤ byte ∧ byte ≤ begun.most then
    let value := 64 * begun.value + (byte - 0x80)
    match begun.further with
    | 0 => ([Char.ofNat value], none)
    | further + 1 => ([], some ⟨value, further, 0x80, 0xBF, by decide⟩)
  else
    let (read, begun) := first byte
    (replacement :: read, begun)

def step : Option Begun → Nat → List Char × Option Begun
  | none, byte => first byte
  | some begun, byte => begun.next byte

def readFrom (begun : Option Begun) : List UInt8 → List Char
  | [] => if begun.isSome then [replacement] else []
  | byte :: bytes =>
      let (read, begun) := step begun byte.toNat
      read ++ readFrom begun bytes

def shown (bytes : List UInt8) : List Char := readFrom none bytes

end Utf8

end TableLineage.Text
