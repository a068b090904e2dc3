import Criteria.Text.DecimalDigit
import Criteria.Time.Calendar

/-!
# Timestamps

A timestamp is a text of 24 characters such as `2023-05-01T10:00:00.000Z`. The digits may be of any
script except where a field's range depends on them: the first digit of every field but the year,
both digits of the month, all digits of the fraction, and the second digit of a day or an hour that
starts with a digit whose range is cut off.
-/

namespace Criteria
set_option autoImplicit false

namespace Timestamp

/-- The value of a two-digit number whose first digit is ASCII. The second one may be of any script
if `loose` allows it after that first digit. -/
def twoDigits? (loose : Nat → Bool) (a b : Char) : Option Nat := do
  let tens ← asciiDigit? a
  let ones ← if loose tens then digitValue? b else asciiDigit? b
  return 10 * tens + ones

/-- The year, in four digits of any script. -/
def year? (a b c d : Char) : Option Nat := do
  return 1000 * (← digitValue? a) + 100 * (← digitValue? b) + 10 * (← digitValue? c) +
    (← digitValue? d)

/-- The month. -/
def month? (a b : Char) : Option Nat := twoDigits? (fun _ => false) a b

/-- The day of the month. -/
def day? (a b : Char) : Option Nat := twoDigits? (fun tens => tens == 1 || tens == 2) a b

/-- The hour. -/
def hour? (a b : Char) : Option Nat := twoDigits? (· ≤ 1) a b

/-- The minute or the second. -/
def sixtieth? (a b : Char) : Option Nat := twoDigits? (· ≤ 5) a b

/-- The thousandths of a second. -/
def milli? (a b c : Char) : Option Nat := do
  return 100 * (← asciiDigit? a) + 10 * (← asciiDigit? b) + (← asciiDigit? c)

/-- The date and time that a timestamp names, if the text is one and the calendar has the day. -/
def read? (t : Text) : Option DateTime :=
  match t with
  | [y₁, y₂, y₃, y₄, dash₁, m₁, m₂, dash₂, d₁, d₂, mark, h₁, h₂, colon₁, n₁, n₂, colon₂, s₁, s₂,
      point, f₁, f₂, f₃, zone] =>
    if dash₁ == '-' && dash₂ == '-' && mark == 'T' && colon₁ == ':' && colon₂ == ':' &&
        point == '.' && zone == 'Z' then do
      DateTime.ofParts? (← year? y₁ y₂ y₃ y₄) (← month? m₁ m₂) (← day? d₁ d₂) (← hour? h₁ h₂)
        (← sixtieth? n₁ n₂) (← sixtieth? s₁ s₂) ((← milli? f₁ f₂ f₃) * 1000)
    else none
  | _ => none

/-- A number in decimal digits, filled up with zeros to the given width. -/
def padded (width n : Nat) : Text :=
  let digits := Nat.toDigits 10 n
  List.replicate (width - digits.length) '0' ++ digits

/-- The timestamp of a date and time: the year without padding, all other fields with it, and the
fraction cut off after the thousandths. -/
def write (t : DateTime) : Text :=
  Nat.toDigits 10 t.date.year ++ '-' :: (padded 2 t.date.month ++ '-' :: (padded 2 t.date.day ++
    'T' :: (padded 2 t.time.hour ++ ':' :: (padded 2 t.time.minute ++
      ':' :: (padded 2 t.time.second ++ '.' :: (padded 3 (t.time.micro / 1000) ++ ['Z']))))))

end Timestamp

end Criteria
