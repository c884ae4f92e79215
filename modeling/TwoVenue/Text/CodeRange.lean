/-!
# Sets of characters given by ranges

A property of characters is a list of ranges of code points, both ends included. `inRanges` looks a character up.
-/

namespace TwoVenue.Text

/-- Whether the code point of `c` lies in one of the ranges. -/
def inRanges (ranges : List (Nat × Nat)) (c : Char) : Bool :=
  ranges.any fun (low, high) => decide (low ≤ c.toNat) && decide (c.toNat ≤ high)

end TwoVenue.Text
