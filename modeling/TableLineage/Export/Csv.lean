import TableLineage.Export.UsedTables

/-!
# Comma-separated output

Rows end in a line feed.  A field is quoted only if it holds a comma, a quote
or a line break; quotes inside of it are doubled.
-/

namespace TableLineage.Export

namespace Csv

def needsQuotes (c : Char) : Bool := c == ',' || c == '"' || c == '\r' || c == '\n'

def quotedChar (c : Char) : List Char := if c = '"' then ['"', '"'] else [c]

def field (text : List Char) : List Char :=
  if text.any needsQuotes then '"' :: text.flatMap quotedChar ++ ['"'] else text

def row : String × String → List Char
  | (first, second) => field first.toList ++ ',' :: field second.toList ++ ['\n']

def header : String × String := ("object", "table")

end Csv

/-- The rows of a map under their header. -/
def UsedTables.csv (used : UsedTables) : String :=
  String.ofList ((Csv.header :: used.pairs).flatMap Csv.row)

end TableLineage.Export
