import TableLineage.Formula.Token

/-!
# Listings

A listing gives the tokens of a text with their byte offsets.  It is closed by
an end mark, unless the text ends inside a literal or a comment; then what is
left open is named with its offset, and the tokens before it are kept.
-/

namespace TableLineage.Formula

open TableLineage.Text

structure Entry where
  /-- The end mark has no kind. -/
  kind : Option Kind
  text : List Char
  start : Nat
  stop : Nat
deriving DecidableEq, Repr

def Located.entry (located : Located) : Entry :=
  ⟨some located.token.kind, located.token.text, located.start, located.stop⟩

def Entry.endMark (size : Nat) : Entry := ⟨none, "eof".toList, size, size⟩

structure Listing where
  entries : List Entry
  failure? : Option (Unclosed × Nat)
deriving DecidableEq, Repr

def listing (text : List Char) : Listing :=
  let line := tokenLine text
  let entries := line.located.map Located.entry
  match line.failure? with
  | none => ⟨entries ++ [.endMark (byteSize text)], none⟩
  | some failure => ⟨entries, some failure⟩

end TableLineage.Formula
