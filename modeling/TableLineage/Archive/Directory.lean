import TableLineage.Number.Power

/-!
# The directory of a zip archive

An archive is read from its end: an end record tells where the directory is,
and the directory where the entries are.  Offsets are counted from the start of
the archive proper, which may have other data in front of it.  Archives too
large for the end record have a second one, found through a locator.
-/

namespace TableLineage.Archive

inductive Fault
  | endOfData
  | tooShort | noEnd | noLargeEnd | noRoomForLargeEnd
  | directoryPlace | directoryHeader | localHeader | headerPlace
  | cipherMissing | cipherVendor | cipherVersion | cipherStrength
  | cipherLength | multipleDisks | method | password
deriving DecidableEq, Repr

namespace Fault

def isUnsupported : Fault → Bool
  | cipherLength | multipleDisks | method | password => true
  | _ => false

def reason : Fault → String
  | endOfData => "failed to fill whole buffer"
  | tooShort => "Invalid zip header"
  | noEnd => "Could not find central directory end"
  | noLargeEnd => "Could not find ZIP64 central directory end"
  | noRoomForLargeEnd => "File cannot contain ZIP64 central directory end"
  | directoryPlace => "Invalid central directory size or offset"
  | directoryHeader => "Invalid Central Directory header"
  | localHeader => "Invalid local file header"
  | headerPlace => "Archive header is too large"
  | cipherMissing => "AES encryption without AES extra data field"
  | cipherVendor => "Invalid AES vendor"
  | cipherVersion => "Invalid AES vendor version"
  | cipherStrength => "Invalid AES encryption strength"
  | cipherLength => "AES extra data field has an unsupported length"
  | multipleDisks => "Support for multi-disk files is not implemented"
  | method => "Compression method not supported"
  | password => "Password required to decrypt file"

def message (fault : Fault) : String :=
  if fault = endOfData then fault.reason
  else if fault.isUnsupported then "unsupported Zip archive: " ++ fault.reason
  else "invalid Zip archive: " ++ fault.reason

end Fault

def littleEndian : List UInt8 → Nat
  | [] => 0
  | byte :: bytes => byte.toNat + 256 * littleEndian bytes

def bytesAt (archive : ByteArray) (start count : Nat) : List UInt8 :=
  if start < archive.size then
    (archive.extract start (min (start + count) archive.size)).data.toList
  else []

def need (archive : ByteArray) (stop : Nat) : Except Fault Unit :=
  if stop ≤ archive.size then .ok () else .error .endOfData

/-- The number at `start`; bytes behind the end count as zero. -/
def field (archive : ByteArray) (start width : Nat) : Nat :=
  littleEndian (bytesAt archive start width)

def fieldIn (archive : ByteArray) (start width : Nat) : Except Fault Nat := do
  need archive (start + width)
  .ok (field archive start width)

def endSignature : Nat := 0x06054b50

def endSize : Nat := 22

structure DirectoryEnd where
  start : Nat
  disk : Nat
  directoryDisk : Nat
  diskEntries : Nat
  entries : Nat
  directorySize : Nat
  directoryOffset : Nat
  commentLength : Nat

/-- Some number is too large for the record, which then stands for the larger one. -/
def DirectoryEnd.overflows (record : DirectoryEnd) : Bool :=
  [record.disk, record.directoryDisk, record.diskEntries, record.entries].contains 0xFFFF ||
    [record.directorySize, record.directoryOffset].contains 0xFFFFFFFF

def directoryEndAt (archive : ByteArray) (start : Nat) : Except Fault DirectoryEnd := do
  let record : DirectoryEnd := {
    start
    disk := field archive (start + 4) 2
    directoryDisk := field archive (start + 6) 2
    diskEntries := field archive (start + 8) 2
    entries := field archive (start + 10) 2
    directorySize := field archive (start + 12) 4
    directoryOffset := field archive (start + 16) 4
    commentLength := field archive (start + 20) 2 }
  need archive (start + endSize + record.commentLength)
  .ok record

def searchEnd (archive : ByteArray) (start : Nat) : Nat → Except Fault DirectoryEnd
  | 0 => .error .noEnd
  | count + 1 =>
      if field archive start 4 = endSignature then directoryEndAt archive start
      else if start = 0 then .error .noEnd
      else searchEnd archive (start - 1) count

def longestComment : Nat := 65535

def directoryEnd (archive : ByteArray) : Except Fault DirectoryEnd :=
  if archive.size < endSize then .error .tooShort
  else searchEnd archive (archive.size - endSize) (longestComment + 1)

structure DirectoryPlace where
  /-- The bytes in front of the archive proper. -/
  shift : Nat
  start : Nat
  entries : Nat

def locatorSignature : Nat := 0x07064b50

def locatorSize : Nat := 20

def largeEndSignature : Nat := 0x06064b50

def largeEndSize : Nat := 56

/-- Looks for the larger end record from `start` upwards; `nominal` is where it should be. -/
def searchLargeEnd (archive : ByteArray) (nominal start : Nat) : Nat → Except Fault DirectoryPlace
  | 0 => .error .noLargeEnd
  | count + 1 => do
      if (← fieldIn archive start 4) = largeEndSignature then
        need archive (start + largeEndSize)
        let shift := start - nominal
        if field archive (start + 16) 4 = field archive (start + 20) 4 then
          let place := field archive (start + 48) 8 + shift
          if place < Number.wordLimit then .ok ⟨shift, place, field archive (start + 32) 8⟩
          else .error .directoryPlace
        else .error .multipleDisks
      else searchLargeEnd archive nominal (start + 1) count

def largePlace (archive : ByteArray) (record : DirectoryEnd) (locator : Nat) :
    Except Fault DirectoryPlace :=
  if !record.overflows && record.disk != field archive (locator + 4) 4 then
    .error .multipleDisks
  else if record.start < 60 then .error .noRoomForLargeEnd
  else
    let nominal := field archive (locator + 8) 8
    searchLargeEnd archive nominal nominal (record.start - 60 + 1 - nominal)

def plainPlace (record : DirectoryEnd) : Except Fault DirectoryPlace :=
  if record.start < record.directorySize + record.directoryOffset then .error .directoryPlace
  else
    let start := record.start - record.directorySize
    .ok ⟨start - record.directoryOffset, start, record.diskEntries⟩

/-- The locator stands in front of an end record whose comment ends the archive. -/
def locator? (archive : ByteArray) (record : DirectoryEnd) : Option Nat :=
  let behind := locatorSize + endSize + record.commentLength
  if archive.size < behind then none
  else
    let start := archive.size - behind
    if field archive start 4 = locatorSignature then some start else none

def directoryPlace (archive : ByteArray) : Except Fault DirectoryPlace := do
  let record ← directoryEnd archive
  if !record.overflows && record.disk != record.directoryDisk then .error .multipleDisks
  else
    match locator? archive record with
    | some locator => largePlace archive record locator
    | none => plainPlace record

/-! ## Entries -/

structure Entry where
  name : List UInt8
  encrypted : Bool
  method : Nat
  checksum : Nat
  compressedSize : Nat
  size : Nat
  headerStart : Nat
  ciphered : Bool := false

def sizeLimit : Nat := 0xFFFFFFFF

/-- Takes a number from eight bytes where `given` does not hold it; none where they are missing. -/
def largeNumber (given : Nat) (bytes : List UInt8) : Option (Nat × List UInt8 × Nat) :=
  if given = sizeLimit then
    if bytes.length < 8 then none
    else some (littleEndian (bytes.take 8), bytes.drop 8, 8)
  else some (given, bytes, 0)

/-- Sizes and the offset, each if it is too large for the header; also what is left of the bytes
and how many were taken. -/
def largeNumbers (entry : Entry) (bytes : List UInt8) : Entry × Option (List UInt8 × Nat) :=
  match largeNumber entry.size bytes with
  | none => (entry, none)
  | some (size, bytes, first) =>
      let entry := { entry with size }
      match largeNumber entry.compressedSize bytes with
      | none => (entry, none)
      | some (compressedSize, bytes, second) =>
          let entry := { entry with compressedSize }
          match largeNumber entry.headerStart bytes with
          | none => (entry, none)
          | some (headerStart, bytes, third) =>
              ({ entry with headerStart }, some (bytes, first + second + third))

def cipherVendor : Nat := 0x4541

def cipherMethod (bytes : List UInt8) : Except Fault Nat :=
  if littleEndian ((bytes.drop 2).take 2) ≠ cipherVendor then .error .cipherVendor
  else if !([1, 2].contains (littleEndian (bytes.take 2))) then .error .cipherVersion
  else if !([1, 2, 3].contains (littleEndian ((bytes.drop 4).take 1))) then
    .error .cipherStrength
  else .ok (littleEndian ((bytes.drop 5).take 2))

/-- Reads the extra fields of an entry.  They end early where bytes are missing. -/
def readExtra : Nat → Entry → List UInt8 → Except Fault Entry
  | 0, entry, _ => .ok entry
  | budget + 1, entry, bytes =>
      if bytes.length < 4 then .ok entry
      else
        let kind := littleEndian (bytes.take 2)
        let length := littleEndian ((bytes.drop 2).take 2)
        let body := bytes.drop 4
        if kind = 0x0001 then
          match largeNumbers entry body with
          | (entry, none) => .ok entry
          | (entry, some (left, taken)) => readExtra budget entry (left.drop (length - taken))
        else if kind = 0x9901 then
          if length ≠ 7 then .error .cipherLength
          else if body.length < 7 then .ok entry
          else
            match cipherMethod body with
            | .ok method =>
                readExtra budget { entry with method, ciphered := true } (body.drop (7 + length))
            | .error fault => .error fault
        else readExtra budget entry (body.drop length)

def headerSignature : Nat := 0x02014b50

def headerSize : Nat := 46

def cipherMethodNumber : Nat := 99

/-- The entry whose header is at `start`, and where the next header is. -/
def entryAt (archive : ByteArray) (shift start : Nat) : Except Fault (Entry × Nat) := do
  if (← fieldIn archive start 4) = headerSignature then
    need archive (start + headerSize)
    let nameLength := field archive (start + 28) 2
    let extraLength := field archive (start + 30) 2
    let commentLength := field archive (start + 32) 2
    let nameStart := start + headerSize
    let extraStart := nameStart + nameLength
    let stop := extraStart + extraLength + commentLength
    need archive stop
    let entry ← readExtra extraLength {
      name := bytesAt archive nameStart nameLength
      encrypted := field archive (start + 8) 2 % 2 = 1
      method := field archive (start + 10) 2
      checksum := field archive (start + 16) 4
      compressedSize := field archive (start + 20) 4
      size := field archive (start + 24) 4
      headerStart := field archive (start + 42) 4 } (bytesAt archive extraStart extraLength)
    if entry.method = cipherMethodNumber ∧ !entry.ciphered then .error .cipherMissing
    else if Number.wordLimit ≤ entry.headerStart + shift then .error .headerPlace
    else .ok ({ entry with headerStart := entry.headerStart + shift }, stop)
  else .error .directoryHeader

def entriesFrom (archive : ByteArray) (shift start : Nat) : Nat → Except Fault (List Entry)
  | 0 => .ok []
  | count + 1 => do
      let (entry, next) ← entryAt archive shift start
      let entries ← entriesFrom archive shift next count
      .ok (entry :: entries)

def entries (archive : ByteArray) : Except Fault (List Entry) := do
  let place ← directoryPlace archive
  entriesFrom archive place.shift place.start place.entries

def findEntry? (name : String) (entries : List Entry) : Option Entry :=
  entries.reverse.find? fun entry => entry.name == name.toUTF8.data.toList

end TableLineage.Archive
