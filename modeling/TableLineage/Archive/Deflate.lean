import TableLineage.Archive.Huffman

/-!
# Deflated data

Blocks are stored plainly or coded.  A coded block mixes bytes with references
back into the output, which may not reach beyond its start.  Data is corrupt
where it says something wrong, and incomplete where it ends before its last
block does.
-/

namespace TableLineage.Archive

inductive Flaw
  | incomplete
  | corrupt
deriving DecidableEq, Repr

/-- What is left of the input: whole bytes, and the bits of the byte begun. -/
structure BitSource where
  bytes : List UInt8
  held : Nat := 0
  heldBits : Nat := 0

abbrev Bits (α : Type) : Type := BitSource → Except Flaw (α × BitSource)

namespace Deflate

def corrupt : Except Flaw α := .error .corrupt

def orCorrupt (found : Option α) : Except Flaw α := found.elim corrupt .ok

def bit : Bits Nat := fun source =>
  if source.heldBits = 0 then
    match source.bytes with
    | [] => .error .incomplete
    | byte :: bytes => .ok (byte.toNat % 2, ⟨bytes, byte.toNat / 2, 7⟩)
  else .ok (source.held % 2, ⟨source.bytes, source.held / 2, source.heldBits - 1⟩)

def bits : Nat → Bits Nat
  | 0 => fun source => .ok (0, source)
  | count + 1 => fun source => do
      let (low, source) ← bit source
      let (high, source) ← bits count source
      .ok (low + 2 * high, source)

/-- Follows a code from one length to the next.  `first` is the first code word of the length,
`index` the place of its symbol, and `word` the code word read so far.  Bits that make up no code
word are corrupt as soon as no longer code word can start with them. -/
def symbolFrom (symbols : Array Nat) (first index word : Nat) : List Nat → Bits Nat
  | [] => fun _ => corrupt
  | count :: counts => fun source => do
      let (low, source) ← bit source
      let word := word + low
      if word < first + count then
        let symbol ← orCorrupt symbols[index + (word - first)]?
        .ok (symbol, source)
      else
        symbolFrom symbols (2 * (first + count)) (index + count) (2 * word) counts source

def symbol (code : Huffman) : Bits Nat := symbolFrom code.symbols 0 0 0 code.counts

def fixedLiteralLengths : List Nat :=
  List.replicate 144 8 ++ List.replicate 112 9 ++ List.replicate 24 7 ++ List.replicate 8 8

def fixedDistanceLengths : List Nat := List.replicate 32 5

def lengthOrder : List Nat :=
  [16, 17, 18, 0, 8, 7, 9, 6, 10, 5, 11, 4, 12, 3, 13, 2, 14, 1, 15]

def lengthsInOrder : List Nat → List (Nat × Nat) → Bits (List (Nat × Nat))
  | [], found => fun source => .ok (found, source)
  | place :: places, found => fun source => do
      let (length, source) ← bits 3 source
      lengthsInOrder places ((place, length) :: found) source

def lengthAt (found : List (Nat × Nat)) (place : Nat) : Nat := (found.lookup place).getD 0

/-- Reads code lengths, the last first in `before`, until `wanted` of them are there. -/
def codeLengths (code : Huffman) (wanted : Nat) : Nat → List Nat → Bits (List Nat)
  | 0, _ => fun _ => corrupt
  | budget + 1, before => fun source =>
      if wanted ≤ before.length then
        if before.length = wanted then .ok (before.reverse, source) else corrupt
      else do
        let (kind, source) ← symbol code source
        if kind < 16 then codeLengths code wanted budget (kind :: before) source
        else if kind = 16 then
          let (more, source) ← bits 2 source
          let last ← orCorrupt before.head?
          codeLengths code wanted budget (List.replicate (3 + more) last ++ before) source
        else
          let (more, source) ← bits (if kind = 17 then 3 else 7) source
          let count := (if kind = 17 then 3 else 11) + more
          codeLengths code wanted budget (List.replicate count 0 ++ before) source

def endOfBlock : Nat := 256

/-- How many literals and lengths there may be, and how many distances. -/
def mostLiterals : Nat := 286

def mostDistances : Nat := 30

def lengthCode (found : List (Nat × Nat)) (wanted : Nat) : Bits Huffman := fun source => do
  let lengths := (List.range 19).map (lengthAt found)
  if lengths.all (· = 0) then
    -- Every bit then is the length zero, so that no block has an end.
    let _ ← bits wanted source
    corrupt
  else if Huffman.room lengths = Number.twoTo Huffman.longest then
    .ok (Huffman.ofLengths lengths, source)
  else corrupt

def ownCodes : Bits (Huffman × Huffman) := fun source => do
  let (literals, source) ← bits 5 source
  let (distances, source) ← bits 5 source
  let (given, source) ← bits 4 source
  let literals := literals + 257
  let distances := distances + 1
  if mostLiterals < literals ∨ mostDistances < distances then corrupt
  else
    let (found, source) ← lengthsInOrder (lengthOrder.take (given + 4)) [] source
    let wanted := literals + distances
    let (code, source) ← lengthCode found wanted source
    let (lengths, source) ← codeLengths code wanted (wanted + 1) [] source
    if lengths[endOfBlock]? = some 0 then corrupt
    else
      let literalCode ← orCorrupt (Huffman.ofLengths? (lengths.take literals))
      let distanceCode ← orCorrupt (Huffman.ofLengths? (lengths.drop literals))
      .ok ((literalCode, distanceCode), source)

/-! ## Blocks -/

def lengthTable : Array (Nat × Nat) := #[
  (3, 0), (4, 0), (5, 0), (6, 0), (7, 0), (8, 0), (9, 0), (10, 0), (11, 1), (13, 1),
  (15, 1), (17, 1), (19, 2), (23, 2), (27, 2), (31, 2), (35, 3), (43, 3), (51, 3), (59, 3),
  (67, 4), (83, 4), (99, 4), (115, 4), (131, 5), (163, 5), (195, 5), (227, 5), (258, 0)]

def distanceTable : Array (Nat × Nat) := #[
  (1, 0), (2, 0), (3, 0), (4, 0), (5, 1), (7, 1), (9, 2), (13, 2), (17, 3), (25, 3),
  (33, 4), (49, 4), (65, 5), (97, 5), (129, 6), (193, 6), (257, 7), (385, 7), (513, 8),
  (769, 8), (1025, 9), (1537, 9), (2049, 10), (3073, 10), (4097, 11), (6145, 11),
  (8193, 12), (12289, 12), (16385, 13), (24577, 13)]

def tableValue (table : Array (Nat × Nat)) (index : Nat) : Bits Nat := fun source => do
  let (base, extra) ← orCorrupt table[index]?
  let (more, source) ← bits extra source
  .ok (base + more, source)

/-- Repeats the byte at a distance from the end, which lies in the output. -/
def copyBack (output : ByteArray) (distance : Nat) : Nat → ByteArray
  | 0 => output
  | count + 1 =>
      copyBack (output.push (output[output.size - distance]?.getD 0)) distance count

/-- A coded block up to its end symbol.  Every symbol takes a bit, so one step per bit is
enough. -/
def codedBlock (literals distances : Huffman) : Nat → ByteArray → Bits ByteArray
  | 0, _ => fun _ => corrupt
  | budget + 1, output => fun source => do
      let (kind, source) ← symbol literals source
      if kind < endOfBlock then
        codedBlock literals distances budget (output.push (UInt8.ofNat kind)) source
      else if kind = endOfBlock then .ok (output, source)
      else
        let (length, source) ← tableValue lengthTable (kind - 257) source
        let (place, source) ← symbol distances source
        let (distance, source) ← tableValue distanceTable place source
        if output.size < distance then corrupt
        else codedBlock literals distances budget (copyBack output distance length) source

def storedBytes : Nat → List UInt8 → ByteArray → Except Flaw (ByteArray × List UInt8)
  | 0, bytes, output => .ok (output, bytes)
  | _ + 1, [], _ => .error .incomplete
  | count + 1, byte :: bytes, output => storedBytes count bytes (output.push byte)

/-- A block stored from the next whole byte on, behind its length and the complement of it. -/
def storedBlock (output : ByteArray) : Bits ByteArray := fun source => do
  let (length, source) ← bits 16 ⟨source.bytes, 0, 0⟩
  let (complement, source) ← bits 16 source
  if length + complement = 65535 then
    let (output, bytes) ← storedBytes length source.bytes output
    .ok (output, ⟨bytes, 0, 0⟩)
  else corrupt

def bitCount (source : BitSource) : Nat := 8 * source.bytes.length + source.heldBits

def block (kind : Nat) (output : ByteArray) : Bits ByteArray := fun source =>
  match kind with
  | 0 => storedBlock output source
  | 1 =>
      codedBlock (.ofLengths fixedLiteralLengths) (.ofLengths fixedDistanceLengths)
        (bitCount source + 1) output source
  | 2 => do
      let ((literals, distances), source) ← ownCodes source
      codedBlock literals distances (bitCount source + 1) output source
  | _ => corrupt

def blocks : Nat → ByteArray → Bits ByteArray
  | 0, _ => fun _ => corrupt
  | budget + 1, output => fun source => do
      let (last, source) ← bit source
      let (kind, source) ← bits 2 source
      let (output, source) ← block kind output source
      if last = 1 then .ok (output, source) else blocks budget output source

def inflate (data : List UInt8) : Except Flaw (List UInt8) :=
  (blocks (8 * data.length + 1) .empty ⟨data, 0, 0⟩).map fun result => result.1.data.toList

end Deflate

end TableLineage.Archive
