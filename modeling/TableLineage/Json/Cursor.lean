/-!
# Places in a JSON text

A place counts lines from one and, within a line, the bytes read so far.  A
cursor is what is left to read together with the place where it starts.
-/

namespace TableLineage.Json

structure Place where
  line : Nat
  column : Nat
deriving DecidableEq, Repr

namespace Place

def start : Place := ⟨1, 0⟩

def after (place : Place) (c : Char) : Place :=
  if c = '\n' then ⟨place.line + 1, 0⟩ else ⟨place.line, place.column + c.utf8Size⟩

def into (place : Place) (c : Char) : Place :=
  if c = '\n' then ⟨place.line + 1, 0⟩ else ⟨place.line, place.column + 1⟩

def afterAll (place : Place) (text : List Char) : Place := text.foldl after place

def afterBytes (place : Place) : Nat → List Char → Place
  | _, [] => place
  | bytes, c :: text =>
      if c.utf8Size ≤ bytes then (place.after c).afterBytes (bytes - c.utf8Size) text
      else ⟨place.line, place.column + bytes⟩

end Place

structure Cursor where
  ahead : List Char
  place : Place
deriving DecidableEq, Repr

namespace Cursor

def skipWhile (accepts : Char → Bool) (cursor : Cursor) : Cursor :=
  let (taken, ahead) := cursor.ahead.span accepts
  ⟨ahead, cursor.place.afterAll taken⟩

def isBlank (c : Char) : Bool := c == ' ' || c == '\n' || c == '\t' || c == '\r'

def pastBlanks (cursor : Cursor) : Cursor := cursor.skipWhile isBlank

/-- Past the next character that is not blank, where that is `c`. -/
def past (c : Char) (cursor : Cursor) : Cursor :=
  let cursor := cursor.pastBlanks
  match cursor.ahead with
  | found :: ahead => if found = c then ⟨ahead, cursor.place.after c⟩ else cursor
  | [] => cursor

def listStop (cursor : Cursor) : Cursor :=
  let cursor := cursor.pastBlanks
  match cursor.ahead with
  | ',' :: _ => (cursor.past ',').pastBlanks
  | _ => cursor.past ']'

def objectStop (cursor : Cursor) : Cursor := cursor.past '\x7d'

end Cursor

end TableLineage.Json
