import Criteria.Criterion.Basic
import Criteria.Fault
import Criteria.Number.Numeral
import Criteria.Value.Writing

/-!
# Why a criterion does not compile

Most causes are faults that name the criterion by its key. The others show a criterion that was
never checked, or a question that a relationship or a constant cannot answer.
-/

namespace Criteria
set_option autoImplicit false

/-- The stores that criteria are compiled for. -/
inductive Backend where
  | document
  | relational
deriving DecidableEq, Repr

namespace Backend

/-- The name of the compiler for the store. -/
def compilerName : Backend → String
  | .document => "MongoWhereCompiler"
  | .relational => "SQLAlchemyWhereCompiler"

end Backend

/-- Why a criterion does not compile. -/
inductive CompileError where
  /-- The operator is none of the known ones. The message shows it as `op`. -/
  | unsupportedOperator (backend : Backend) (op : String) (key : Option Text)
  /-- The operator is an integer of so many digits that no message can show it. -/
  | unshownOperator
  /-- The key names no field. -/
  | fieldRequired (op : Operator) (key : Option Text)
  /-- A segment of the path is no relationship of the entity reached so far. -/
  | notRelationship (entity : String) (segment key : Text)
  /-- The entity at the end of the path has no such attribute. -/
  | noAttribute (entity : String) (field key : Text)
  /-- The key of an unchecked criterion is absent. -/
  | absentKey
  /-- The declared type of an unchecked criterion is none of the known ones. -/
  | unknownValueType
  /-- A relationship has neither an order nor a presence of its own. -/
  | relationshipOperand
  /-- A relationship is compared with a value that is no record. -/
  | relationshipValue
  /-- A constant has no order to the value. -/
  | incomparable
  /-- A constant has no presence of its own. -/
  | constantPresence
  /-- The value has no search text. -/
  | unwritable (e : WriteError)
deriving DecidableEq, Repr

namespace CompileError

/-- A key as a detail. -/
def keyValue : Option Text → Value
  | some key => .ofText key
  | none => .scalar .null

/-- The operator in a message. An integer has a text only up to `maxDigits` digits. -/
def operatorDisplay? : Scalar → Option String
  | .number (.int n) =>
    if (Nat.toDigits 10 n.natAbs).length ≤ Numeral.maxDigits then
      some (Scalar.number (.int n)).display
    else none
  | op => some op.display

/-- The operator is none of the known ones, which a message has to show. -/
def unsupported (backend : Backend) (op : Scalar) (key : Option Text) : CompileError :=
  match operatorDisplay? op with
  | some shown => .unsupportedOperator backend shown key
  | none => .unshownOperator

/-- The fault that reports the cause, for the causes that are faults. -/
def fault? : CompileError → Option Fault
  | .unsupportedOperator backend op key => some {
      kind := .unsupportedOperator
      message := "Operator " ++ op ++ " is not supported"
      details := [("key", keyValue key), ("compiler", .ofString backend.compilerName)] }
  | .fieldRequired op key => some {
      kind := .invalidField
      message := "A field path is required for this operator"
      details := [("key", keyValue key), ("op", .ofString op.name)] }
  | .notRelationship entity segment key => some {
      kind := .invalidField
      message := "Path segment is not a relationship"
      details := [("model", .ofString entity), ("relationship", .ofText segment),
        ("key", .ofText key)] }
  | .noAttribute entity field key => some {
      kind := .invalidField
      message := "Model has no such attribute"
      details := [("model", .ofString entity), ("field", .ofText field), ("key", .ofText key)] }
  | .unshownOperator | .absentKey | .unknownValueType | .relationshipOperand | .relationshipValue
  | .incomparable | .constantPresence | .unwritable _ => none

end CompileError

end Criteria
