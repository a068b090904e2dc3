import Criteria.Number.Decimal
import Criteria.Text.Blank
import Criteria.Text.DecimalDigit

/-!
# Numerals

The two forms of number text: integers, and decimal fractions with at least a point. Digits may be
of any script, with a single underscore between two of them; padding may stand around the text.
Neither form knows grouping, which is removed before.
-/

namespace Criteria
set_option autoImplicit false

namespace Numeral

/-- Padding is a blank, other than the information separators. -/
def isPadding (c : Char) : Bool :=
  if c.toNat < 0x7f then c == ' ' || ('\t' ≤ c && c ≤ '\r') else isBlank c

/-- The text without padding at its start. -/
def dropPadding (t : Text) : Text := t.dropWhile isPadding

/-- The text without padding at either end. -/
def trimPadding (t : Text) : Text := (dropPadding (dropPadding t).reverse).reverse

/-- The digits of a text that has nothing else but single underscores between them. -/
def digits? : Text → Option (List Nat)
  | [] => none
  | [c] => (digitValue? c).map ([·])
  | c :: '_' :: rest => do return (← digitValue? c) :: (← digits? rest)
  | c :: rest => do return (← digitValue? c) :: (← digits? rest)

/-- The number with the given digits. -/
def value (digits : List Nat) : Nat := digits.foldl (fun n d => 10 * n + d) 0

/-- Whether the text has a minus sign, and the text without its sign. -/
def splitSign : Text → Bool × Text
  | '-' :: rest => (true, rest)
  | '+' :: rest => (false, rest)
  | t => (false, t)

/-- The number of digits beyond which an integer is refused. -/
def maxDigits : Nat := 4300

/-- The integer that a text writes, if it has at most `maxDigits` digits, leading zeros counted. -/
def int? (t : Text) : Option Int := do
  let (negative, body) := splitSign (trimPadding t)
  let digits ← digits? body
  if digits.length ≤ maxDigits then
    return if negative then -(value digits : Int) else value digits
  else none

/-- The sign and the magnitude of the decimal fraction `whole.fraction`, where `whole` holds the
sign and may have no digits. -/
def fraction? (whole fraction : Text) : Option (Bool × Rat) := do
  let (negative, body) := splitSign (dropPadding whole)
  let units ← if body.isEmpty then some [] else digits? body
  let places ← if fraction.isEmpty then some [] else digits? fraction
  return (negative, scaled 10 (value (units ++ places)) (-(places.length : Int)))

end Numeral

end Criteria
