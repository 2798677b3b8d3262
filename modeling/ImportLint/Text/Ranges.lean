/-!
# Tables of code points

A property of characters is given by a table of intervals of code points. Every table of the library
is in increasing order, so a search may stop at the first interval that starts above the code point.
-/

namespace ImportLint.Text

/-- Intervals of code points, both ends included, in increasing order. -/
abbrev Ranges : Type := List (Nat × Nat)

/-- Whether one of the intervals holds the code point `n`. -/
def Ranges.covers : Ranges → Nat → Bool
  | [], _ => false
  | (lo, hi) :: rest, n => if n < lo then false else decide (n ≤ hi) || Ranges.covers rest n

end ImportLint.Text
