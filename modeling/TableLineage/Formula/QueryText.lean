import TableLineage.Text.Blank

/-!
# Text inside quotes

A query stands in a formula as a literal: quotes are doubled, and line feeds
and tabs are written as escapes.  `normalizeQuery` undoes this as far as SQL
cares: an escape becomes a space and a run of quotes one quote.
-/

namespace TableLineage.Formula

open TableLineage.Text

/-- Strictly between the first quote and the last; empty with fewer than two quotes. -/
def quotedSpan (text : List Char) : List Char :=
  (dropWhileEnd (· != '"') ((text.dropWhile (· != '"')).drop 1)).dropLast

def unquote (text : List Char) : List Char :=
  match text with
  | '"' :: inner => if inner.getLast? = some '"' then inner.dropLast else text
  | _ => text

/-- A text as a literal; quotes in it have to be doubled before. -/
def enquote (text : List Char) : List Char := '"' :: (text ++ ['"'])

def lineFeedEscape : List Char := "#(lf)".toList

def tabEscape : List Char := "#(tab)".toList

def encodeChar (c : Char) : List Char :=
  if c = '"' then ['"', '"']
  else if c = '\n' then lineFeedEscape
  else if c = '\t' then tabEscape
  else [c]

def encodeQuery (query : List Char) : List Char := query.flatMap encodeChar

def blankBreak (c : Char) : Char := if c = '\n' ∨ c = '\t' then ' ' else c

/-- Writes a space for every occurrence of `escape`, of which `skip` characters are still to be
passed. -/
def blankOut (escape : List Char) : Nat → List Char → List Char
  | _, [] => []
  | skip + 1, _ :: text => blankOut escape skip text
  | 0, c :: text =>
      if escape.isPrefixOf (c :: text) then ' ' :: blankOut escape (escape.length - 1) text
      else c :: blankOut escape 0 text

def collapseQuotes (afterQuote : Bool) : List Char → List Char
  | [] => []
  | c :: text =>
      if c = '"' then
        if afterQuote then collapseQuotes true text else c :: collapseQuotes true text
      else c :: collapseQuotes false text

def normalizeQuery (text : List Char) : List Char :=
  blankOut tabEscape 0 (collapseQuotes false (blankOut lineFeedEscape 0 text))

end TableLineage.Formula
