import Criteria.Number.Binary64

/-!
# Shortest decimals

The shortest decimal of a magnitude has the fewest digits among those that round back to it, and is
the nearest of these; of two that are equally near the one with the even last digit.
-/

namespace Criteria.Magnitude
set_option autoImplicit false

/-- Whether the decimal rounds back to the magnitude. -/
def readsBack (x : Magnitude) (d : Decimal) : Bool := ofRat? d.toRat == some x

/-- The multiples of `10 ^ e` on both sides of the value. -/
def neighbours (x : Magnitude) (e : Int) : Decimal × Decimal :=
  let r := x.toRat
  let below := r.num.toNat * Nat.pow 10 (-e).toNat / (r.den * Nat.pow 10 e.toNat)
  (⟨below, e⟩, ⟨below + 1, e⟩)

/-- The decimal on the grid of `10 ^ e` that rounds back to the magnitude, the nearer of two. -/
def onGrid? (x : Magnitude) (e : Int) : Option Decimal :=
  let (low, high) := x.neighbours e
  match x.readsBack low, x.readsBack high with
  | true, true =>
    let twice := 2 * x.toRat
    let middle := low.toRat + high.toRat
    if twice < middle then some low
    else if middle < twice then some high
    else if low.coefficient % 2 = 0 then some low else some high
  | true, false => some low
  | false, true => some high
  | false, false => none

/-- The decimal that is the exact value. -/
def exactDecimal (x : Magnitude) : Decimal :=
  if 0 ≤ x.exponent then ⟨x.significand <<< x.exponent.toNat, 0⟩
  else ⟨x.significand * Nat.pow 5 (-x.exponent).toNat, x.exponent⟩

/-- The number of places before the point: the least `k` with the value below `10 ^ k`. -/
def places (x : Magnitude) : Int :=
  let r := x.toRat
  let whole := r.num.toNat / r.den
  if whole = 0 then 1 - ((Nat.toDigits 10 ((r.den - 1) / r.num.toNat)).length : Int)
  else (Nat.toDigits 10 whole).length

/-- The shortest decimal, without zeros at its end. Seventeen digits are always enough to tell a
magnitude from its neighbours. -/
def shortest (x : Magnitude) : Decimal :=
  if x.significand = 0 then ⟨0, 0⟩
  else
    let k := x.places
    (((List.range 17).findSome? fun n => x.onGrid? (k - 1 - (n : Nat))).getD x.exactDecimal).trim

end Criteria.Magnitude
