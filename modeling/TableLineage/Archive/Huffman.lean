import TableLineage.Number.Power

/-!
# Canonical Huffman codes

A code is given by the length of each symbol's code word, zero for a symbol
without one.  Code words of one length are consecutive numbers in the order of
the symbols, and shorter ones come first.  So a code needs only the symbols in
this order and how many there are of each length.
-/

namespace TableLineage.Archive

structure Huffman where
  /-- For each length from one up to the longest there is, the number of code words. -/
  counts : List Nat
  symbols : Array Nat
deriving Repr

namespace Huffman

def longest : Nat := 15

def lengthsFromOne : List Nat := (List.range longest).map (· + 1)

def symbolsOfLength (lengths : List Nat) (length : Nat) : List Nat :=
  (lengths.zipIdx.filter fun entry => entry.1 == length).map (·.2)

def roomFor (length : Nat) : Nat := if length = 0 then 0 else Number.twoTo (longest - length)

def room (lengths : List Nat) : Nat := lengths.foldr (fun length sum => roomFor length + sum) 0

/-- A code has to use up its room, unless it has no code word or a single one of one bit. -/
def wellFormed (lengths : List Nat) : Bool :=
  room lengths == Number.twoTo longest || [[], [1]].contains (lengths.filter (· != 0))

/-- Takes off the lengths at the end that no code word has; that of one bit always counts. -/
def upToLongest : List Nat → List Nat
  | [] => []
  | count :: counts =>
      if counts.all (· == 0) then [count] else count :: upToLongest counts

def ofLengths (lengths : List Nat) : Huffman where
  counts := upToLongest (lengthsFromOne.map fun length => (symbolsOfLength lengths length).length)
  symbols := (lengthsFromOne.flatMap (symbolsOfLength lengths)).toArray

def ofLengths? (lengths : List Nat) : Option Huffman :=
  if wellFormed lengths then some (ofLengths lengths) else none

end Huffman

end TableLineage.Archive
