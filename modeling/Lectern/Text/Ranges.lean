/-
Module: Lectern.Text.Ranges
Purpose: Sets of characters given as sorted ranges of code points.
Main exports: Ranges.holds
-/

namespace Lectern.Text

/-- Ranges of code points, both ends included, in increasing order. -/
abbrev Ranges := List (Nat × Nat)

namespace Ranges

/-- Does a range hold the code point? The search ends at the first range that starts beyond it. -/
def holds : Ranges → Nat → Bool
  | [], _ => false
  | (low, high) :: rest, code =>
    if code < low then false else if code ≤ high then true else holds rest code

end Ranges

end Lectern.Text
