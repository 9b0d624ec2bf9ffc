import TableLineage.Ordered
import TableLineage.Text.LetterCase
import TableLineage.Text.Split

/-!
# Navigation records

A direct import names its table in a record between braces.  Fields are
separated by commas, a key from its value by the first equals sign.  Keys
lose the opening bracket and their letter case; values lose their quotes and,
at the end, one closing bracket.
-/

namespace TableLineage.Formula

open TableLineage.Text

def bracedSpan? (text : List Char) : Option (List Char) :=
  match splitOnce '\x7b' text with
  | none => none
  | some (_, inside) => (splitOnce '\x7d' inside).map (·.1)

def fieldKey (text : List Char) : List Char :=
  lowercase (trim ((trim text).dropWhile (· == '[')))

def fieldValue (text : List Char) : List Char :=
  trim (dropFinal ']' (trimEnd (text.filter (· != '"'))))

def field? (part : List Char) : Option (List Char × List Char) :=
  (splitOnce '=' part).map fun (key, value) => (fieldKey key, fieldValue value)

/-- The fields of the first record of a text, in order of the first insertion of their keys. -/
def bracedFields? (text : List Char) : Option (List (List Char × List Char)) :=
  (bracedSpan? text).map fun inside => Ordered.ofEntries ((split ',' inside).filterMap field?)

end TableLineage.Formula
