import Criteria.Criterion.Basic
import Criteria.Criterion.Problem
import Criteria.Datum
import Criteria.Text.LetterCase

/-!
# Checking loose data

A criterion may arrive as loose data, such as a decoded request. Every field is checked on its own
and all problems are reported, in the order of the fields of a criterion; fields of other names are
ignored.
-/

namespace Criteria
set_option autoImplicit false

/-- The outcome of a check: all problems, or the checked value. -/
abbrev Checked (α : Type) := Except (List Problem) α

namespace Datum

/-- The words for true and for false. -/
def boolWords : List (String × Bool) :=
  [("1", true), ("t", true), ("true", true), ("y", true), ("yes", true), ("on", true),
    ("0", false), ("f", false), ("false", false), ("n", false), ("no", false), ("off", false)]

/-- The truth value that a number names. Integers of 64 bits, and integral floating-point numbers
strictly between the same bounds, are read; others are no candidates. -/
def boolOfNumber (n : Number) : Except ProblemKind Bool :=
  let candidate : Option Int := match n with
    | .int i => if Int64.minValue.toInt ≤ i ∧ i ≤ Int64.maxValue.toInt then some i else none
    | .float x => x.toRat?.bind fun r =>
      if r.den = 1 ∧ Int64.minValue.toInt < r.num ∧ r.num ≤ Int64.maxValue.toInt then some r.num
      else none
  match candidate with
  | some 0 => .ok false
  | some 1 => .ok true
  | some _ => .error .unreadableBool
  | none => .error .notBool

/-- A truth value, or a word or number that names one. -/
def toBool : Datum → Except ProblemKind Bool
  | .bool b => .ok b
  | .number n => boolOfNumber n
  | .text t => match boolWords.lookup (String.ofList (lowercase t)) with
    | some b => .ok b
    | none => .error .unreadableBool
  | .null | .array _ | .record _ => .error .notBool

/-- A text. -/
def toText : Datum → Except ProblemKind Text
  | .text t => .ok t
  | _ => .error .notText

/-- The name of an operator. -/
def toOperator : Datum → Except ProblemKind Operator
  | .text t => match Operator.ofName? t with
    | some op => .ok op
    | none => .error .notOperator
  | _ => .error .notOperator

/-- The name of a value type. -/
def toValueType : Datum → Except ProblemKind ValueType
  | .text t => match ValueType.ofName? t with
    | some ty => .ok ty
    | none => .error .notValueType
  | _ => .error .notValueType

/-- Null for no value, and anything else for what `read` makes of it. -/
def optional {α : Type} (read : Datum → Except ProblemKind α) :
    Datum → Except ProblemKind (Option α)
  | .null => .ok none
  | d => (read d).map some

end Datum

namespace Checked

/-- The field of the given name, or the default if it is absent; an absent field without a default
is a problem. -/
def field {α : Type} (fields : List (String × Datum)) (name : String) (default? : Option α)
    (read : Datum → Except ProblemKind α) : Checked α :=
  let result := match fields.lookup name, default? with
    | some d, _ => read d
    | none, some a => .ok a
    | none, none => .error .missing
  result.mapError fun kind => [⟨some name, kind⟩]

/-- Both outcomes, or the problems of both in order. -/
def both {α β : Type} (a : Checked α) (b : Checked β) : Checked (α × β) :=
  match a, b with
  | .ok x, .ok y => .ok (x, y)
  | .error ps, .ok _ => .error ps
  | .ok _, .error qs => .error qs
  | .error ps, .error qs => .error (ps ++ qs)

end Checked

namespace Criterion

/-- The criterion with the given fields. -/
def ofFields (fields : List (String × Datum)) : Checked Criterion :=
  let key := Checked.field fields "key" (some []) Datum.toText
  let op := Checked.field fields "op" none Datum.toOperator
  let value := Checked.field fields "value" (some none) (Datum.optional Datum.toText)
  let array := Checked.field fields "array" (some false) Datum.toBool
  let present := Checked.field fields "exists" (some false) Datum.toBool
  let valueType := Checked.field fields "type" (some none) (Datum.optional Datum.toValueType)
  (key.both (op.both (value.both (array.both (present.both valueType))))).map
    fun (key, op, value, array, present, valueType) =>
      { key, op, value, array, present, valueType }

/-- The criterion that loose data describes. -/
def ofDatum : Datum → Checked Criterion
  | .record fields => ofFields fields
  | _ => .error [⟨none, .notRecord⟩]

end Criterion

end Criteria
