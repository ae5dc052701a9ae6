/-! Sets of characters written as ascending ranges of code points, both ends included. -/

namespace FirstMatch.Text

/-- Whether `n` lies in one of the ranges.  They ascend, so the search stops at the first range
that begins after `n`. -/
def covers : List (Nat × Nat) → Nat → Bool
  | [], _ => false
  | (low, high) :: rest, n => if n < low then false else n ≤ high || covers rest n

end FirstMatch.Text
