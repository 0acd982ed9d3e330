/-!
# Ranges of code points

Properties of characters are given as lists of ranges of code points. This file holds the one
question asked of such a list.

## Main definitions

* `inRanges`: A number lies in one of the ranges.
-/

namespace CallSnippets

namespace Text

/-- The number lies in one of the ranges, both ends included. -/
def inRanges (ranges : List (Nat × Nat)) (n : Nat) : Bool :=
  ranges.any fun r => r.1 ≤ n && n ≤ r.2

end Text

end CallSnippets
