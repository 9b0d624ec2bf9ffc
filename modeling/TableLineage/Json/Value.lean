import TableLineage.Json.Fault

/-!
# JSON values

Members of an object keep their order and may repeat a key.
-/

namespace TableLineage.Json

open TableLineage.Number

inductive Value
  | null
  | boolean (value : Bool)
  | number (value : Numeral)
  | string (value : String)
  | array (items : List Value)
  | object (members : List (String × Value))
deriving Repr

def Value.found : Value → Found
  | .null => .null
  | .boolean value => .boolean value
  | .number value => .number value
  | .string value => .string value
  | .array _ => .sequence
  | .object _ => .map

def Value.text? : Value → Option String
  | .string value => some value
  | _ => none

end TableLineage.Json
