import Criteria.Value.Display

/-!
# Search criteria

A criterion compares the field at a key with a raw value text, or asks whether the field is there. A
raw criterion is one whose parts nobody checked: its key may be absent, and its operator and value
type may lie outside the vocabulary.
-/

namespace Criteria
set_option autoImplicit false

/-- A comparison of a field with a value. -/
inductive Comparison where
  | eq
  | ne
  | gt
  | ge
  | lt
  | le
deriving DecidableEq, Repr

namespace Comparison

/-- The name in criteria. -/
def name : Comparison → String
  | .eq => "EQ"
  | .ne => "NE"
  | .gt => "GT"
  | .ge => "GE"
  | .lt => "LT"
  | .le => "LE"

/-- Whether the comparison asks for the order of two values. -/
def isOrdering : Comparison → Bool
  | .eq | .ne => false
  | .gt | .ge | .lt | .le => true

end Comparison

/-- What a criterion asks of its field. -/
inductive Operator where
  | compare (c : Comparison)
  /-- Whether the field is there. -/
  | presence
  /-- Nothing: the operator was not understood where the criterion was made. -/
  | unknown
deriving DecidableEq, Repr

namespace Operator

/-- All operators. -/
def all : List Operator :=
  [.compare .eq, .compare .ne, .compare .gt, .compare .ge, .compare .lt, .compare .le, .presence,
    .unknown]

/-- The name in criteria. -/
def name : Operator → String
  | .compare c => c.name
  | .presence => "EXISTS"
  | .unknown => "UNKNOWN"

/-- The operator with the given name. -/
def ofName? (t : Text) : Option Operator := all.find? fun op => op.name.toList == t

end Operator

/-- The type that a criterion declares for its value. -/
inductive ValueType where
  | number
  | bool
deriving DecidableEq, Repr

namespace ValueType

/-- The name in criteria. -/
def name : ValueType → String
  | .number => "NUMBER"
  | .bool => "BOOLEAN"

/-- The value type with the given name. -/
def ofName? (t : Text) : Option ValueType := [number, bool].find? fun ty => ty.name.toList == t

end ValueType

/-- A criterion all of whose parts are of the vocabulary. -/
structure Criterion where
  key : Text := []
  op : Operator
  value : Option Text := none
  array : Bool := false
  present : Bool := false
  valueType : Option ValueType := none
deriving DecidableEq, Repr

/-- An operator that nobody checked. -/
inductive RawOperator where
  | known (op : Operator)
  /-- Any other text or number, or null. -/
  | foreign (s : Scalar)
deriving DecidableEq, Repr

namespace RawOperator

/-- A text is an operator if it has the name of one. -/
def ofScalar : Scalar → RawOperator
  | .text t => match Operator.ofName? t with
    | some op => .known op
    | none => .foreign (.text t)
  | s => .foreign s

/-- The operator as it stands in a line of text. -/
def label : RawOperator → String
  | .known op => op.name
  | .foreign (.text t) => String.ofList t
  | .foreign s => s.display

end RawOperator

/-- A value type that nobody checked. -/
inductive RawValueType where
  | known (ty : ValueType)
  | foreign (name : Text)
deriving DecidableEq, Repr

/-- A text is a value type if it has the name of one. -/
def RawValueType.ofText (t : Text) : RawValueType :=
  match ValueType.ofName? t with
  | some ty => .known ty
  | none => .foreign t

/-- A criterion that nobody checked. -/
structure RawCriterion where
  key : Option Text := some []
  op : RawOperator
  value : Option Text := none
  array : Bool := false
  present : Bool := false
  valueType : Option RawValueType := none
deriving DecidableEq, Repr

namespace RawCriterion

/-- The criterion in a line of text: key, operator and quoted value. -/
def display (c : RawCriterion) : String :=
  let key := match c.key with
    | some key => String.ofList key
    | none => Scalar.null.display
  let value := match c.value with
    | some value => Scalar.text value
    | none => .null
  key ++ " " ++ c.op.label ++ " " ++ value.display

end RawCriterion

namespace Criterion

/-- The same criterion, forgetting that it was checked. -/
def raw (c : Criterion) : RawCriterion where
  key := some c.key
  op := .known c.op
  value := c.value
  array := c.array
  present := c.present
  valueType := c.valueType.map .known

instance : Coe Criterion RawCriterion := ⟨raw⟩

end Criterion

end Criteria
