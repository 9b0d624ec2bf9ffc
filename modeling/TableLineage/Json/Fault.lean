import TableLineage.Json.Cursor
import TableLineage.Number.Binary64
import TableLineage.Text.Quoted

/-!
# Faults of a JSON text

A fault is what is wrong; a failure adds where.  Some faults concern a whole
composite value, such as a missing field: their place is where the reading of
that value ends, which is not yet known when they are found.
-/

namespace TableLineage.Json

open TableLineage.Number

/-- A value that was found where another kind of value should be. -/
inductive Found
  | null
  | boolean (value : Bool)
  | number (value : Numeral)
  | string (value : String)
  | sequence
  | map
deriving DecidableEq, Repr

def Found.text : Found → String
  | .null => "null"
  | .boolean value => if value then "boolean `true`" else "boolean `false`"
  | .number (.whole value) => s!"integer `{value}`"
  | .number value => s!"floating point `{value.text}`"
  | .string value => "string " ++ Text.quoted value
  | .sequence => "sequence"
  | .map => "map"

inductive Fault
  | endInValue | endInString | endInList | endInObject
  | expectedColon | expectedListEnd | expectedObjectEnd | expectedWord | expectedValue
  | invalidEscape | endOfHexEscape | loneSurrogate | controlCharacter
  | invalidNumber | numberOutOfRange
  | keyNotString | trailingComma | trailingCharacters | tooDeep
  | wrongType (found : Found) (expected : String)
  | wrongLength (length : Nat) (expected : String)
  | duplicateField (name : String)
  | missingField (name : String)
  | noVariant (name : String)
deriving DecidableEq, Repr

def Fault.message : Fault → String
  | .endInValue => "EOF while parsing a value"
  | .endInString => "EOF while parsing a string"
  | .endInList => "EOF while parsing a list"
  | .endInObject => "EOF while parsing an object"
  | .expectedColon => "expected `:`"
  | .expectedListEnd => "expected `,` or `]`"
  | .expectedObjectEnd => "expected `,` or `\x7d`"
  | .expectedWord => "expected ident"
  | .expectedValue => "expected value"
  | .invalidEscape => "invalid escape"
  | .endOfHexEscape => "unexpected end of hex escape"
  | .loneSurrogate => "lone leading surrogate in hex escape"
  | .controlCharacter =>
      "control character (\\u0000-\\u001F) found while parsing a string"
  | .invalidNumber => "invalid number"
  | .numberOutOfRange => "number out of range"
  | .keyNotString => "key must be a string"
  | .trailingComma => "trailing comma"
  | .trailingCharacters => "trailing characters"
  | .tooDeep => "recursion limit exceeded"
  | .wrongType found expected => s!"invalid type: {found.text}, expected {expected}"
  | .wrongLength length expected => s!"invalid length {length}, expected {expected}"
  | .duplicateField name => s!"duplicate field `{name}`"
  | .missingField name => s!"missing field `{name}`"
  | .noVariant name => s!"data did not match any variant of untagged enum {name}"

inductive Failure
  | placed (fault : Fault) (place : Place)
  | unplaced (fault : Fault) (stopped : Cursor)
deriving DecidableEq, Repr

namespace Failure

def fault : Failure → Fault
  | placed fault _ => fault
  | unplaced fault _ => fault

def place : Failure → Place
  | placed _ place => place
  | unplaced _ stopped => stopped.place

def message (failure : Failure) : String :=
  s!"{failure.fault.message} at line {failure.place.line} column {failure.place.column}"

end Failure

end TableLineage.Json
