import TableLineage.Json.Value

/-!
# Printing JSON

Compact text has no blanks.  Indented text puts every item and every member on
a line of its own, two spaces further in than the brackets around it; empty
composite values stay on one line.
-/

namespace TableLineage.Json

open TableLineage.Number

namespace Printer

def hexDigits : List Char := "0123456789abcdef".toList

def hexDigit (n : Nat) : Char := hexDigits.getD n '0'

def escapedChar (c : Char) : List Char :=
  match c with
  | '"' => ['\\', '"']
  | '\\' => ['\\', '\\']
  | '\x08' => ['\\', 'b']
  | '\x0c' => ['\\', 'f']
  | '\n' => ['\\', 'n']
  | '\r' => ['\\', 'r']
  | '\t' => ['\\', 't']
  | _ =>
      if c.toNat < 32 then
        ['\\', 'u', '0', '0', hexDigit (c.toNat / 16), hexDigit (c.toNat % 16)]
      else [c]

def stringText (text : String) : List Char :=
  '"' :: text.toList.flatMap escapedChar ++ ['"']

def word (text : String) : List Char := text.toList

def scalarText : Value → List Char
  | .null => word "null"
  | .boolean value => word (if value then "true" else "false")
  | .number value => value.text.toList
  | .string value => stringText value
  | .array _ | .object _ => []

mutual

def compact : Value → List Char
  | .array [] => ['[', ']']
  | .array (item :: items) => '[' :: compact item ++ compactItems items
  | .object [] => ['\x7b', '\x7d']
  | .object ((key, value) :: members) =>
      '\x7b' :: stringText key ++ ':' :: compact value ++ compactMembers members
  | scalar => scalarText scalar

def compactItems : List Value → List Char
  | [] => [']']
  | item :: items => ',' :: compact item ++ compactItems items

def compactMembers : List (String × Value) → List Char
  | [] => ['\x7d']
  | (key, value) :: members =>
      ',' :: stringText key ++ ':' :: compact value ++ compactMembers members

end

def newLine (depth : Nat) : List Char := '\n' :: List.replicate (2 * depth) ' '

mutual

def indented (depth : Nat) : Value → List Char
  | .array [] => ['[', ']']
  | .array (item :: items) =>
      '[' :: newLine (depth + 1) ++ indented (depth + 1) item ++ indentedItems depth items
  | .object [] => ['\x7b', '\x7d']
  | .object ((key, value) :: members) =>
      '\x7b' :: newLine (depth + 1) ++ stringText key ++ ':' :: ' ' ::
        indented (depth + 1) value ++ indentedMembers depth members
  | scalar => scalarText scalar

def indentedItems (depth : Nat) : List Value → List Char
  | [] => newLine depth ++ [']']
  | item :: items =>
      ',' :: newLine (depth + 1) ++ indented (depth + 1) item ++ indentedItems depth items

def indentedMembers (depth : Nat) : List (String × Value) → List Char
  | [] => newLine depth ++ ['\x7d']
  | (key, value) :: members =>
      ',' :: newLine (depth + 1) ++ stringText key ++ ':' :: ' ' ::
        indented (depth + 1) value ++ indentedMembers depth members

end

end Printer

def Value.compactText (value : Value) : String := String.ofList (Printer.compact value)

def Value.indentedText (value : Value) : String := String.ofList (Printer.indented 0 value)

end TableLineage.Json
