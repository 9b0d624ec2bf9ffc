import TableLineage.Archive.Crc32
import TableLineage.Archive.Deflate
import TableLineage.Archive.Directory
import TableLineage.Text.Utf16

/-!
# The schema of a template

A template is an archive, and one entry of it holds the schema as UTF-16 text.
The header in front of the data only serves to find where the data starts; all
else about an entry is taken from the directory.  The sizes given there are not
checked, the check sum is.
-/

namespace TableLineage.Archive

inductive TemplateError
  | archive (fault : Fault)
  | noSchema
  | data (flaw : Flaw)
  | wrongChecksum
  | text (error : Text.Utf16.DecodeError)
  /-- The entry has the details of a cipher and no mark that it is encrypted: there is no way to
  read it. -/
  | unmarkedCipher
deriving DecidableEq, Repr

/-- Whether the reading does not just fail but breaks down, so that there is no message. -/
def TemplateError.breaksDown : TemplateError → Bool
  | .unmarkedCipher => true
  | _ => false

def schemaEntryName : String := "DataModelSchema"

def TemplateError.message : TemplateError → String
  | .archive fault => "invalid template archive: " ++ fault.message
  | .noSchema => s!"`{schemaEntryName}` entry not found in the template archive"
  | .data .incomplete => "failed to read the schema entry: incomplete deflate stream"
  | .data .corrupt => "failed to read the schema entry: corrupt deflate stream"
  | .wrongChecksum => "failed to read the schema entry: Invalid checksum"
  | .text error => "schema entry is not valid UTF-16 text: " ++ error.reason
  | .unmarkedCipher => ""

def localSignature : Nat := 0x04034b50

def localSize : Nat := 30

def storedData (archive : ByteArray) (entry : Entry) : Except Fault (List UInt8) := do
  let start := entry.headerStart
  if (← fieldIn archive start 4) = localSignature then
    need archive (start + localSize)
    let nameLength := field archive (start + 26) 2
    let extraLength := field archive (start + 28) 2
    .ok (bytesAt archive (start + localSize + nameLength + extraLength) entry.compressedSize)
  else .error .localHeader

inductive Method
  | stored | deflated
deriving DecidableEq, Repr

def Method.ofNumber? : Nat → Option Method
  | 0 => some .stored
  | 8 => some .deflated
  | _ => none

def packedData (archive : ByteArray) (entry : Entry) : Except Fault (Method × List UInt8) := do
  if entry.encrypted then .error .password
  else
    let data ← storedData archive entry
    match Method.ofNumber? entry.method with
    | some method => .ok (method, data)
    | none => .error .method

def Method.unpack : Method → List UInt8 → Except Flaw (List UInt8)
  | .stored, data => .ok data
  | .deflated, data => Deflate.inflate data

def readEntry (archive : ByteArray) (entry : Entry) : Except TemplateError (List UInt8) := do
  let (method, data) ← (packedData archive entry).mapError .archive
  if entry.ciphered then .error .unmarkedCipher
  else
    let bytes ← (method.unpack data).mapError .data
    if (Crc32.ofBytes bytes).toNat = entry.checksum then .ok bytes else .error .wrongChecksum

def readSchema (archive : ByteArray) : Except TemplateError (List Char) :=
  match entries archive with
  | .error fault => .error (.archive fault)
  | .ok entries =>
      match findEntry? schemaEntryName entries with
      | none => .error .noSchema
      | some entry =>
          match readEntry archive entry with
          | .error error => .error error
          | .ok bytes => (Text.Utf16.decode bytes).mapError .text

end TableLineage.Archive
