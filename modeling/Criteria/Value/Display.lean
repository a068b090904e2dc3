import Criteria.Number.Shortest
import Criteria.Text.Quoted
import Criteria.Value.Basic

/-!
# Values in messages

The form in which values stand in messages: texts are quoted, numbers have the fewest digits that
read back, and moments are spelled out with their offset.
-/

namespace Criteria
set_option autoImplicit false

/-- The least exponent, and the first too large one, between which numbers are shown positionally.
-/
def positionalExponents : Int × Int := (-4, 16)

/-- A magnitude in a message: always with a point or an exponent. -/
def Magnitude.display (x : Magnitude) : Text :=
  let d := x.shortest
  if positionalExponents.1 ≤ d.leadingExponent ∧ d.leadingExponent < positionalExponents.2 then
    d.positional ++ (if 0 ≤ d.exponent then ['.', '0'] else [])
  else d.scientific

/-- A floating-point number in a message. -/
def Binary64.display : Binary64 → Text
  | .finite negative x => (if negative then ['-'] else []) ++ x.display
  | .infinite negative => (if negative then ['-'] else []) ++ "inf".toList
  | .nan => "nan".toList

/-- An integer in decimal digits. -/
def intDigits (n : Int) : Text :=
  (if n < 0 then ['-'] else []) ++ Nat.toDigits 10 n.natAbs

/-- A number in a message. -/
def Number.display : Number → Text
  | .int n => intDigits n
  | .float x => x.display

/-- An offset in a message: days, seconds and microseconds as far as they are not zero, of which
only the days may be negative. -/
def Offset.display (o : Offset) : String :=
  let micros := o.micros % microsPerDay
  let fields := [("days", o.micros / microsPerDay), ("seconds", micros / 1000000),
    ("microseconds", micros % 1000000)].filter (·.2 ≠ 0)
  if fields.isEmpty then "datetime.timezone.utc"
  else
    let shown := fields.map fun (name, n) => name ++ "=" ++ toString n
    "datetime.timezone(datetime.timedelta(" ++ ", ".intercalate shown ++ "))"

/-- A moment in a message: seconds and microseconds only as far as they are not zero. -/
def Moment.display (m : Moment) : String :=
  let date := m.wall.date
  let time := m.wall.time
  let fields := [date.year, date.month, date.day, time.hour, time.minute] ++
    (if time.micro ≠ 0 then [time.second, time.micro]
      else if time.second ≠ 0 then [time.second] else [])
  let zone := match m.offset with
    | none => []
    | some offset => ["tzinfo=" ++ offset.display]
  "datetime.datetime(" ++ ", ".intercalate (fields.map toString ++ zone) ++ ")"

/-- A scalar in a message. -/
def Scalar.display : Scalar → String
  | .null => "None"
  | .bool true => "True"
  | .bool false => "False"
  | .number n => String.ofList n.display
  | .moment m => m.display
  | .text t => String.ofList (quoted t)

/-- Items between square brackets. -/
def bracketed (items : List String) : String := "[" ++ ", ".intercalate items ++ "]"

mutual

/-- A value in a message; a tuple of one part keeps its comma. -/
def Value.display : Value → String
  | .scalar s => s.display
  | .list items => bracketed (displayAll items)
  | .tuple [item] => "(" ++ Value.display item ++ ",)"
  | .tuple items => "(" ++ ", ".intercalate (displayAll items) ++ ")"

/-- Each of the values in a message. -/
def Value.displayAll : List Value → List String
  | [] => []
  | v :: vs => Value.display v :: displayAll vs

end

end Criteria
