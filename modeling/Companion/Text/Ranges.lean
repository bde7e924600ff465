/-! Sets of code points given by ranges. The tables of the character properties are such sets, in
ascending order, so a look-up can stop at the first range that starts above the code point. -/
namespace Companion.Text

/-- Ranges of code points, both ends included, in ascending order. -/
abbrev Ranges := List (Nat × Nat)

/-- Whether one of the ranges holds `n`. -/
def Ranges.has : Ranges → Nat → Bool
  | [], _ => false
  | (low, high) :: rest, n =>
    if n < low then false else if n ≤ high then true else Ranges.has rest n

end Companion.Text
