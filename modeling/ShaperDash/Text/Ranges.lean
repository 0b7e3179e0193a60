/-!
# Sets of characters

A set of characters is a list of ranges of code points in ascending order, both ends included.
-/

namespace ShaperDash

/-- `n` lies in one of the ranges, which are in ascending order. -/
def inRanges : List (Nat × Nat) → Nat → Bool
  | [], _ => false
  | (low, high) :: rest, n => if n < low then false else n ≤ high || inRanges rest n

end ShaperDash
