/-!
# Character classes as tables

A class of characters is listed as ascending, disjoint, closed ranges of code
points.
-/

namespace RecordFilter.Text

/-- Membership in a table of ascending closed ranges. The search stops at the
first range that begins above the code point. -/
def inRanges : List (Nat × Nat) → Nat → Bool
  | [], _ => false
  | (first, last) :: rest, n =>
    if n < first then false else if n ≤ last then true else inRanges rest n

end RecordFilter.Text
