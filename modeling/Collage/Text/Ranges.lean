/-! # Ranges of code points

A property of characters is given by the ranges of code points that have it, in ascending order.
The search ends at the first range that begins behind the code point.
-/

namespace Collage.Text

/-- Whether a code point lies in one of some ascending ranges, each given by its first and its last
code point. -/
def inRanges : List (Nat × Nat) → Nat → Bool
  | [], _ => false
  | (first, last) :: rest, n => !decide (n < first) && (decide (n ≤ last) || inRanges rest n)

end Collage.Text
