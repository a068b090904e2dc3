import Criteria.Text.Basic

/-!
# Ranges of code points

A class of characters is a list of closed ranges of code points.
-/

namespace Criteria
set_option autoImplicit false

/-- The code points from `first` to `last`, both included. -/
structure CodeRange where
  first : Nat
  last : Nat
deriving DecidableEq, Repr

/-- Whether the code point of the character lies in the range. -/
def CodeRange.holds (r : CodeRange) (c : Char) : Bool := r.first ≤ c.toNat && c.toNat ≤ r.last

/-- Whether one of the ranges holds the character. -/
def inRanges (rs : List CodeRange) (c : Char) : Bool := rs.any (·.holds c)

end Criteria
