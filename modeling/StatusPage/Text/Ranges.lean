/-!
Sets of code points given as increasing lists of closed ranges.
-/

set_option autoImplicit false

namespace StatusPage.Text

/-- Searches an increasing list; it stops at the first range that ends at `n` or later. -/
def inRanges : List (Nat × Nat) → Nat → Bool
  | [], _ => false
  | (first, last) :: rest, n => if n ≤ last then first ≤ n else inRanges rest n

end StatusPage.Text
