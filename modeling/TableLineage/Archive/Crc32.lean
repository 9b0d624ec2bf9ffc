/-!
# The check sum of archive entries

The cyclic redundancy check with the reversed polynomial `0xEDB88320`, bit by
bit, starting from and finished with all bits set.
-/

namespace TableLineage.Archive.Crc32

def polynomial : UInt32 := 0xEDB88320

def shift (sum : UInt32) : UInt32 :=
  if sum &&& 1 = 1 then (sum >>> 1) ^^^ polynomial else sum >>> 1

def addByte (sum : UInt32) (byte : UInt8) : UInt32 :=
  shift (shift (shift (shift (shift (shift (shift (shift (sum ^^^ byte.toUInt32))))))))

def ofBytes (bytes : List UInt8) : UInt32 := bytes.foldl addByte 0xFFFFFFFF ^^^ 0xFFFFFFFF

end TableLineage.Archive.Crc32
