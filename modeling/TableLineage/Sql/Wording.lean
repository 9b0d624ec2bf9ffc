import TableLineage.Sql.Mention
import TableLineage.Sql.Token

/-!
# Wording

A name that a call computes is reported as its text.  The text is not the one
that was read but its wording: words of the language are in capitals, names
stay as they are, and the spacing is always the same.
-/

namespace TableLineage.Sql

/-- Doubles each quote that is not doubled yet; quotes right behind a backslash stay as they are. -/
def escapeQuotes (quote : Char) (afterBackslash : Bool) : List Char → List Char
  | [] => []
  | [c] => if c == quote && !afterBackslash then [c, c] else [c]
  | c :: c' :: rest =>
      if c != quote then c :: escapeQuotes quote (c == '\\') (c' :: rest)
      else if afterBackslash then c :: escapeQuotes quote true (c' :: rest)
      else if c' == quote then c :: c' :: escapeQuotes quote false rest
      else c :: c :: escapeQuotes quote false (c' :: rest)

def inQuotes (quote : Char) (text : String) : String :=
  let mark := quote.toString
  mark ++ String.ofList (escapeQuotes quote false text.toList) ++ mark

def Ident.wording (ident : Ident) : String :=
  match ident.quote with
  | none => ident.value
  | some '[' => "[" ++ ident.value ++ "]"
  | some quote => inQuotes quote ident.value

def StringKind.wording (kind : StringKind) (text : String) : String :=
  match kind with
  | .single => inQuotes '\'' text
  | .double => inQuotes '"' text
  | .hex => "X'" ++ text ++ "'"
  | .national => "N'" ++ text ++ "'"
  | .escaped => "E'" ++ text ++ "'"
  | .unicode => "U&'" ++ text ++ "'"
  | .dollar label => "$" ++ label ++ "$" ++ text ++ "$" ++ label ++ "$"
  | .framed opening closing => opening ++ text ++ closing

def numberWording (text : String) (long : Bool) : String := if long then text ++ "L" else text

structure Piece where
  text : String
  blankBefore : Bool := true
  blankAfter : Bool := true
deriving DecidableEq, Repr

namespace Piece

def joint : Piece := ⟨"", false, false⟩

def opening (text : String) : Piece := ⟨text, true, false⟩

def closing (text : String) : Piece := ⟨text, false, true⟩

def tight (text : String) : Piece := ⟨text, false, false⟩

def ofSymbol (text : String) : Piece :=
  match text with
  | "(" | "\x7b" => opening text
  | ")" | "]" | "\x7d" | "," => closing text
  | "." | ":" | "::" | "[" => tight text
  | "!=" => { text := "<>" }
  | "==" => { text := "=" }
  | _ => { text }

end Piece

abbrev Wording := List Piece

namespace Wording

/-- The text of pieces, the first of them first; `bears` tells whether the one before them bears a
blank. -/
def textFrom (bears : Bool) : List Piece → String
  | [] => ""
  | piece :: pieces =>
      (if bears && piece.blankBefore then " " else "") ++ piece.text ++
        textFrom piece.blankAfter pieces

def text (wording : Wording) : String := textFrom false wording.reverse

end Wording

end TableLineage.Sql
