/-!
# Why a partition yields no lineage

A source of another type is no fault of the partition; every other cause means
that its expression could not be understood.
-/

namespace TableLineage.Formula

inductive Refusal
  | noCallLine
  | noAssignment (line : String)
  | noCall (text : String)
  | otherSource (name : String)
  | missingArgument (position : Nat) (callText : String)
  | noNavigationLine
  | noNavigationRecord (line : String)
  | incompleteNavigation (line : String)
deriving DecidableEq, Repr

namespace Refusal

def isOtherSource : Refusal → Bool
  | otherSource _ => true
  | _ => false

def reason : Refusal → String
  | noCallLine => "expression has no call line"
  | noAssignment line => s!"no assignment in `{line}`"
  | noCall text => s!"no call in `{text}`"
  | otherSource name => s!"`{name}`"
  | missingArgument position callText => s!"missing argument {position} in `{callText}`"
  | noNavigationLine => "direct import without navigation line"
  | noNavigationRecord line => s!"no navigation record in `{line}`"
  | incompleteNavigation line =>
      s!"navigation record without schema and item in `{line}`"

def message (refusal : Refusal) : String :=
  if refusal.isOtherSource then "unrecognized source type " ++ refusal.reason
  else "unparsable source expression: " ++ refusal.reason

end Refusal

end TableLineage.Formula
