import TableLineage.Formula.Call

/-!
# Spans of arguments

Arguments can be named by the byte offsets of their ends in the text of the
call.  The offsets come from the tokens of the whole text, from its first
parenthesis on, or from its raw commas where it has no tokens to go by.
-/

namespace TableLineage.Formula

open TableLineage.Text

structure Span where
  start : Nat
  stop : Nat
deriving DecidableEq, Repr

/-- Cuts at the commas outside of all but one of the `depth` open brackets.  The argument being
read begins at `start`; the text ends at `size`. -/
def tokenSpans (size depth start : Nat) : List Located → List Span
  | [] => [⟨start, size⟩]
  | located :: rest =>
      let kind := located.token.kind
      if kind.opens then tokenSpans size (depth + 1) start rest
      else if kind.closes then
        if depth = 1 then [⟨start, located.start⟩] else tokenSpans size (depth - 1) start rest
      else if kind = .comma ∧ depth = 1 then
        ⟨start, located.start⟩ :: tokenSpans size depth located.stop rest
      else tokenSpans size depth start rest

/-- Cuts at every comma before the next closing parenthesis. -/
def plainSpans (start offset : Nat) : List Char → List Span
  | [] => [⟨start, offset⟩]
  | c :: rest =>
      if c = ')' then [⟨start, offset⟩]
      else if c = ',' then ⟨start, offset⟩ :: plainSpans (offset + 1) (offset + 1) rest
      else plainSpans start (offset + c.utf8Size) rest

/-- The spans of the arguments in the first group of a text; none if it has tokens but no
group. -/
def argumentSpans? (text : List Char) : Option (List Span) :=
  let line := tokenLine text
  match line.ending with
  | .complete _ =>
      match line.located.dropWhile (·.token.kind ≠ .leftParen) with
      | [] => none
      | opening :: inside => some (tokenSpans (byteSize text) 1 opening.stop inside)
  | .unclosed .. =>
      match splitOnce '(' text with
      | none => some (plainSpans 0 0 text)
      | some (before, inside) =>
          let start := byteSize before + 1
          some (plainSpans start start inside)

def spansFrom (offset : Nat) : List (List Char) → List Span
  | [] => []
  | piece :: pieces =>
      let stop := offset + byteSize piece
      ⟨offset, stop⟩ :: spansFrom (stop + 1) pieces

def Call.spans (call : Call) : List Span :=
  spansFrom (byteSize call.name + 1) call.arguments.all

end TableLineage.Formula
