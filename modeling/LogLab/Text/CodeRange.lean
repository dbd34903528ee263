/-! # Ranges of code points

Unicode properties are given as lists of closed ranges in ascending order.
-/

namespace LogLab.Text

abbrev CodeRange := Nat × Nat

/-- Whether a code point lies in one of the ranges, of which none after one that lies above it can
hold it. -/
def covers (n : Nat) : List CodeRange → Bool
  | [] => false
  | r :: rs => r.1 ≤ n && (n ≤ r.2 || covers n rs)

def inRanges (ranges : List CodeRange) (c : Char) : Bool :=
  covers c.toNat ranges

end LogLab.Text
