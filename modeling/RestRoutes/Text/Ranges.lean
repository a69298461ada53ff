/-! Sets of code points given by their ranges. -/

namespace RestRoutes.Text

/-- `n` lies in one of the ranges, ends included. -/
def inRanges (n : Nat) : List (Nat × Nat) → Bool
  | [] => false
  | (first, last) :: rest => (decide (first ≤ n) && decide (n ≤ last)) || inRanges n rest

end RestRoutes.Text
