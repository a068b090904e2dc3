import Criteria.Document.Filter
import Criteria.Text.Blank
import Criteria.Value.Reading

/-!
# Criteria for a document store

A store without a schema may hold the text `123` in one document and the number 123 in another. A
criterion that declares a type is therefore hedged: its value is compared as a text, and also as a
value of the declared type if it can be taken as one. A criterion without a type compares texts, a
pattern literal by matching.
-/

namespace Criteria
set_option autoImplicit false

/-- The value of the declared type that a text can be taken as. -/
def ValueType.coerce (s : Separators) (t : Text) : ValueType → Option Scalar
  | .number => (readNumber s t).map .number
  | .bool => (readBool t).map .bool

namespace Filter

/-- The first test, hedged by the second one if there is one. -/
def ofTests (key : Text) (plain : FieldTest) : Option FieldTest → Filter
  | none => field key plain
  | some typed => hedge key plain typed

/-- The text as an operand, or null. -/
def operand : Option Text → Scalar
  | some t => .text t
  | none => .null

/-- Membership, or its negation, in a list of operands. -/
def membership (negated : Bool) (operands : List Scalar) : FieldTest :=
  if negated then .noneOf operands else .oneOf operands

/-- The items of a list text as a criterion compares them. -/
def items (value : Option Text) : List Text :=
  (Commas.split (value.getD [])).map Commas.unescape

/-- Membership of the field in the items of the value. Items that are no values of the declared type
are left to the test on texts. -/
def ofItems (s : Separators) (key : Text) (negated : Bool) (value : Option Text)
    (ty : Option ValueType) : Filter :=
  let plain := membership negated ((items value).map .text)
  let typed := match ty with
    | none => []
    | some ty => (items value).filterMap (ty.coerce s)
  ofTests key plain (if typed.isEmpty then none else some (membership negated typed))

/-- The comparison of the field with the value as a text, and with what the value is in the declared
type. -/
def ofTyped (s : Separators) (key : Text) (c : Comparison) (value : Option Text) (ty : ValueType) :
    Filter :=
  let typed := value.bind fun t => ty.coerce s t
  ofTests key (.compare c (operand value)) (typed.map (.compare c))

/-- Equality of the field with the value, or its negation; a pattern literal is matched. -/
def ofLiteral (key : Text) (negated : Bool) (value : Option Text) : Filter :=
  match value.bind Pattern.ofText? with
  | some p => field key (if negated then .unlike p else .like p)
  | none =>
    field key (.compare (if negated then .ne else .eq) (operand (value.map Commas.unescape)))

/-- The filter for a comparison, whose declared type is known. -/
def ofComparison (s : Separators) (key : Text) (c : Comparison) (value : Option Text) (array : Bool)
    (ty : Option ValueType) : Filter :=
  if array && !c.isOrdering then ofItems s key (c == .ne) value ty
  else
    match ty with
    | some ty => ofTyped s key c value ty
    | none =>
      if c.isOrdering then field key (.compare c (operand value))
      else ofLiteral key (c == .ne) value

end Filter

namespace Document

/-- The declared type of an unchecked criterion, if it is one of the known ones. -/
def knownType : Option RawValueType → Except CompileError (Option ValueType)
  | none => .ok none
  | some (.known ty) => .ok (some ty)
  | some (.foreign _) => .error .unknownValueType

/-- The key of an unchecked criterion, if it names a field. -/
def requireKey (op : Operator) : Option Text → Except CompileError Text
  | none => .error .absentKey
  | some key => if isBlankText key then .error (.fieldRequired op (some key)) else .ok key

/-- The filter for a criterion that compares its field. -/
def comparison (s : Separators) (comparison : Comparison) (c : RawCriterion) :
    Except CompileError Filter := do
  let key ← requireKey (.compare comparison) c.key
  let ty ← knownType c.valueType
  return .ofComparison s key comparison c.value c.array ty

/-- The filter for a criterion that asks whether its field is there. -/
def presence (c : RawCriterion) : Except CompileError Filter := do
  let key ← requireKey .presence c.key
  return .field key (.present c.present)

/-- Compiles one criterion. -/
def compile (s : Separators) (c : RawCriterion) : Outcome Filter :=
  match c.op with
  | .known .unknown => .ok none
  | .known .presence => (presence c).map some
  | .known (.compare op) => (comparison s op c).map some
  | .foreign op => .error (.unsupported .document op c.key)

end Document

end Criteria
