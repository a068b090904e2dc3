import Criteria.Time.Timestamp
import Criteria.Value.Commas
import Criteria.Value.Display

/-!
# Writing values

A value as a search text: the form that is read back as an equal value. Numbers have a point
whatever the separators of the numbers to be read, since a comma would start a list.
-/

namespace Criteria
set_option autoImplicit false

/-- Why a value has no search text. -/
inductive WriteError where
  /-- In universal time the moment leaves the years 1 to 9999. -/
  | yearOutOfRange
deriving DecidableEq, Repr

/-- A magnitude in plain digits: an integer exactly, any other as its shortest decimal. -/
def Magnitude.write (x : Magnitude) : Text :=
  if x.isIntegral then Nat.toDigits 10 x.floor else x.shortest.positional

/-- A floating-point number in plain digits; zero has no sign. -/
def Binary64.write : Binary64 → Text
  | .finite negative x => (if negative && x.significand != 0 then ['-'] else []) ++ x.write
  | .infinite negative => (if negative then ['-'] else []) ++ "Infinity".toList
  | .nan => "NaN".toList

/-- A number as a search text. -/
def Number.write : Number → Text
  | .int n => intDigits n
  | .float x => x.write

/-- A scalar as a search text. -/
def Scalar.write : Scalar → Except WriteError Text
  | .null => .ok "null".toList
  | .bool b => .ok (if b then "true".toList else "false".toList)
  | .number n => .ok n.write
  | .moment m =>
    match m.toUtc? with
    | some t => .ok (Timestamp.write t)
    | none => .error .yearOutOfRange
  | .text t => .ok (Commas.escape t)

mutual

/-- A value as a search text; the parts of a list or tuple are joined by commas. -/
def Value.write : Value → Except WriteError Text
  | .scalar s => s.write
  | .list items => (writeAll items).map Commas.join
  | .tuple items => (writeAll items).map Commas.join

/-- Each of the values as a search text. -/
def Value.writeAll : List Value → Except WriteError (List Text)
  | [] => .ok []
  | v :: vs => do return (← Value.write v) :: (← writeAll vs)

end

end Criteria
