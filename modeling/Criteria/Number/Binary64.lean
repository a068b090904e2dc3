import Criteria.Number.Decimal

/-!
# Binary floating-point numbers

The numbers of the 64-bit binary format, by value: a sign and a magnitude `significand · 2 ^
exponent` in the one form that the format stores, the infinities, and a single NaN. A rational is
rounded to the nearest magnitude, a tie to the even significand.
-/

namespace Criteria
set_option autoImplicit false

/-- A finite magnitude. Its significand has 53 bits unless the exponent is already the least one. -/
structure Magnitude where
  significand : Nat
  exponent : Int
  significand_lt : significand < 1 <<< 53
  exponent_mem : -1074 ≤ exponent ∧ exponent ≤ 971
  normal : 1 <<< 52 ≤ significand ∨ exponent = -1074
deriving DecidableEq, Repr

/-- A number of the 64-bit binary format. -/
inductive Binary64 where
  | finite (negative : Bool) (magnitude : Magnitude)
  | infinite (negative : Bool)
  | nan
deriving DecidableEq, Repr

/-- The quotient rounded to the nearest integer, a tie to the even one. -/
def roundHalfEven (num den : Nat) : Nat :=
  let q := num / den
  let r := num % den
  if 2 * r < den then q else if den < 2 * r then q + 1 else q + q % 2

namespace Magnitude

/-- The magnitude of nothing. -/
def zero : Magnitude := ⟨0, -1074, by decide, by decide, .inr rfl⟩

/-- The magnitude with the given parts, if the format stores it in this form. -/
def ofParts? (significand : Nat) (exponent : Int) : Option Magnitude :=
  if h : significand < 1 <<< 53 ∧ (-1074 ≤ exponent ∧ exponent ≤ 971) ∧
      (1 <<< 52 ≤ significand ∨ exponent = -1074) then
    some ⟨significand, exponent, h.1, h.2.1, h.2.2⟩
  else none

/-- The exact value. -/
def toRat (x : Magnitude) : Rat := scaled 2 x.significand x.exponent

/-- The power of two of the leading bit of `num / den`. -/
def leadingBit (num den : Nat) : Int :=
  let k : Int := num.log2 - den.log2
  if den <<< k.toNat ≤ num <<< (-k).toNat then k else k - 1

/-- The exponent of the grid on which `num / den` is rounded. -/
def gridExponent (num den : Nat) : Int := max (leadingBit num den - 52) (-1074)

/-- The magnitude nearest to a rational that is not negative, or `none` beyond the largest one. -/
def ofRat? (r : Rat) : Option Magnitude :=
  let num := r.num.toNat
  if num = 0 then some zero
  else
    let e := gridExponent num r.den
    let m := roundHalfEven (num <<< (-e).toNat) (r.den <<< e.toNat)
    if m = 1 <<< 53 then ofParts? (1 <<< 52) (e + 1) else ofParts? m e

/-- Whether the value is an integer. -/
def isIntegral (x : Magnitude) : Bool :=
  0 ≤ x.exponent || x.significand % 1 <<< (-x.exponent).toNat == 0

/-- The value rounded down to an integer. -/
def floor (x : Magnitude) : Nat :=
  x.significand <<< x.exponent.toNat >>> (-x.exponent).toNat

end Magnitude

namespace Binary64

/-- The number with the given sign nearest to `r`, or `none` if it would be infinite. -/
def ofRat? (negative : Bool) (r : Rat) : Option Binary64 :=
  (Magnitude.ofRat? r).map (.finite negative)

/-- The exact value of a finite number. -/
def toRat? : Binary64 → Option Rat
  | .finite negative x => some (if negative then -x.toRat else x.toRat)
  | .infinite _ | .nan => none

/-- The number that a pattern of 64 bits encodes. -/
def ofBits (bits : Nat) : Binary64 :=
  let negative := bits >>> 63 % 2 == 1
  let biased : Nat := bits >>> 52 % 1 <<< 11
  let fraction : Nat := bits % 1 <<< 52
  if biased = 1 <<< 11 - 1 then if fraction = 0 then .infinite negative else .nan
  else
    let parts :=
      if biased = 0 then Magnitude.ofParts? fraction (-1074)
      else Magnitude.ofParts? (1 <<< 52 + fraction) ((biased : Int) - 1075)
    .finite negative (parts.getD .zero)

/-- The bits that encode a number; NaN has the quiet pattern without payload. -/
def toBits : Binary64 → Nat
  | .nan => (1 <<< 11 - 1) <<< 52 + 1 <<< 51
  | .infinite negative => signBit negative + (1 <<< 11 - 1) <<< 52
  | .finite negative x =>
    signBit negative +
      if x.significand < 1 <<< 52 then x.significand
      else (x.exponent + 1075).toNat <<< 52 + (x.significand - 1 <<< 52)
where
  /-- The sign in its place. -/
  signBit (negative : Bool) : Nat := if negative then 1 <<< 63 else 0

end Binary64

end Criteria
