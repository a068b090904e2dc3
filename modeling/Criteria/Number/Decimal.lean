import Criteria.Text.Basic

/-!
# Decimal numbers

A decimal is a coefficient and a power of ten. It is written positionally, or with one digit before
the point and an exponent.
-/

namespace Criteria
set_option autoImplicit false

/-- The rational `n · base ^ e`. -/
def scaled (base n : Nat) (e : Int) : Rat :=
  mkRat (n * base.pow e.toNat : Nat) (base.pow (-e).toNat)

/-- The decimal `coefficient · 10 ^ exponent`. -/
structure Decimal where
  coefficient : Nat
  exponent : Int
deriving DecidableEq, Repr

namespace Decimal

/-- The number that a decimal stands for. -/
def toRat (d : Decimal) : Rat := scaled 10 d.coefficient d.exponent

/-- The same number without zeros at the end of the coefficient. -/
def trim (d : Decimal) : Decimal :=
  if d.coefficient ≠ 0 ∧ d.coefficient % 10 = 0 then
    trim ⟨d.coefficient / 10, d.exponent + 1⟩
  else d
termination_by d.coefficient
decreasing_by omega

/-- The digits of the coefficient. -/
def digits (d : Decimal) : Text := Nat.toDigits 10 d.coefficient

/-- The power of ten of the leading digit. -/
def leadingExponent (d : Decimal) : Int := d.digits.length - 1 + d.exponent

/-- Positional form: no exponent, and a point only if the decimal has places after it. -/
def positional (d : Decimal) : Text :=
  if 0 ≤ d.exponent then d.digits ++ List.replicate d.exponent.toNat '0'
  else
    let places := (-d.exponent).toNat
    let padded := List.replicate (places + 1 - d.digits.length) '0' ++ d.digits
    padded.take (padded.length - places) ++ '.' :: padded.drop (padded.length - places)

/-- Exponent form: one digit before the point, and a signed exponent of two digits or more. -/
def scientific (d : Decimal) : Text :=
  let e := d.leadingExponent
  let exponentDigits := Nat.toDigits 10 e.natAbs
  let tail := d.digits.drop 1
  d.digits.take 1 ++ (if tail.isEmpty then [] else '.' :: tail) ++
    'e' :: (if e < 0 then '-' else '+') ::
      (List.replicate (2 - exponentDigits.length) '0' ++ exponentDigits)

end Decimal

end Criteria
