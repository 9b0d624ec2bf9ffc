import TableLineage.Text.Utf8

/-!
# Paths

A path consists of bytes, of names with slashes between them, and need not be
text.  What is meant by a path depends on the files around it; here are only
the operations on the bytes.
-/

namespace TableLineage.CommandLine

structure Path where
  bytes : List UInt8
deriving DecidableEq, Repr

namespace Path

def ofString (text : String) : Path := ⟨Text.Utf8.encode text.toList⟩

instance : Coe String Path := ⟨ofString⟩

def shown (path : Path) : String := String.ofList (Text.Utf8.shown path.bytes)

instance : LE Path := ⟨fun path path' => path.bytes ≤ path'.bytes⟩

instance : LT Path := ⟨fun path path' => path.bytes < path'.bytes⟩

instance : DecidableLE Path := fun path path' =>
  inferInstanceAs (Decidable (path.bytes ≤ path'.bytes))

def slash : UInt8 := 0x2F

def dot : UInt8 := 0x2E

def endsInSlash (path : Path) : Bool := path.bytes.getLast? = some slash

def lead (directory : Path) : List UInt8 :=
  if directory.bytes = [] ∨ directory.endsInSlash then directory.bytes
  else directory.bytes ++ [slash]

/-- The path of an entry of a directory. -/
def join (directory name : Path) : Path := ⟨directory.lead ++ name.bytes⟩

/-- The names of a path; an empty one or a dot leads nowhere else. -/
def names (path : Path) : List Path :=
  ((path.bytes.splitOn slash).filter fun name => name ≠ [] ∧ name ≠ [dot]).map Path.mk

/-- Where a path starts that is not relative; exactly two slashes in front are a root of their
own. -/
def root? (path : Path) : Option Path :=
  if path.bytes.head? ≠ some slash then none
  else if path.bytes[1]? = some slash ∧ path.bytes[2]? ≠ some slash then some "//"
  else some "/"

/-- A path from its root.  A name of two dots is kept: what it means depends on the files. -/
def below (path root : Path) : Path :=
  let whole := path.names.foldl join root
  if path.endsInSlash then whole.join "" else whole

/-- What follows the last dot of a file name, unless the name starts with this dot. -/
def extension? (name : Path) : Option Path :=
  let backwards := name.bytes.reverse
  match backwards.dropWhile (· ≠ dot) with
  | _ :: _ :: _ => some ⟨(backwards.takeWhile (· ≠ dot)).reverse⟩
  | _ => none

end Path

end TableLineage.CommandLine
