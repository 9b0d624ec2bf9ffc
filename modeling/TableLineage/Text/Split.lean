import TableLineage.Text.Blank

/-!
# Splitting text

`split` cuts at every separator and keeps empty pieces, so the pieces with
separators between them give back the text.  `lines` reads line breaks as
terminators: a break at the very end opens no further line, and a carriage
return counts only as part of a break.
-/

namespace TableLineage.Text

def splitOnce (separator : Char) : List Char → Option (List Char × List Char)
  | [] => none
  | c :: rest =>
      if c = separator then some ([], rest)
      else (splitOnce separator rest).map fun (before, after) => (c :: before, after)

def extendFirst (text : List Char) : List (List Char) → List (List Char)
  | [] => [text]
  | piece :: pieces => (text ++ piece) :: pieces

def split (separator : Char) : List Char → List (List Char)
  | [] => [[]]
  | c :: rest =>
      if c = separator then [] :: split separator rest
      else extendFirst [c] (split separator rest)

def dropFinal (c : Char) (text : List Char) : List Char :=
  if text.getLast? = some c then text.dropLast else text

/-- The lines that end in a line feed, without it, and the text behind the last of them. -/
def terminatedLines (text : List Char) : List (List Char) × List Char :=
  let pieces := split '\n' text
  (pieces.dropLast, pieces.getLastD [])

def lines (text : List Char) : List (List Char) :=
  let (terminated, final) := terminatedLines text
  terminated.map (dropFinal '\r') ++ if final.isEmpty then [] else [final]

theorem split_ne_nil (separator : Char) (text : List Char) : split separator text ≠ [] := by
  cases text with
  | nil => simp [split]
  | cons c rest =>
      unfold split
      split
      · simp
      · cases split separator rest <;> simp [extendFirst]

end TableLineage.Text
