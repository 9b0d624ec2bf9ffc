/-!
# Powers of two and ten

The two powers that places of digits are worth, and the bounds of integers
that follow from them.
-/

namespace TableLineage.Number

def twoTo (exponent : Nat) : Nat := Nat.pow 2 exponent

def tenTo (exponent : Nat) : Nat := Nat.pow 10 exponent

def wordLimit : Nat := twoTo 64

/-- Signed numbers of 64 bits are below this, their negatives at most this. -/
def signedLimit : Nat := twoTo 63

end TableLineage.Number
