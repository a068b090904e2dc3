import Criteria.Document.Compile
import Criteria.Proofs.Compilation
import Mathlib.Algebra.Group.Nat.Defs

/-!
# How compiling for a document store ends

For a criterion that nobody checked, each ending has its own condition on the parts: first the
operator is looked at, then the key, and the declared type at last. The value, the array flag and the
separators decide nothing, so a checked criterion fails only if its key names no field. An operator
that is not known has to be shown in the message, for which an integer may have too many digits.
-/

namespace Criteria
set_option autoImplicit false

/-! ## Names in loose parts -/

/-- The scalar is the name of the operator. -/
def Scalar.Names (x : Scalar) (op : Operator) : Prop := x = .text op.name.toList

namespace Document

/-! ## Endings of unchecked criteria -/

section Endings

variable (s : Separators) {c : RawCriterion} {op : Operator} {comparison : Comparison} {key : Text}

theorem ending_of_unknown (unknown : c.op = .known .unknown) : (compile s c).ending = .skipped := by
  rw [compile, unknown]
  rfl

section Field

variable (found : c.key = some key) (field : isBlankText key = false)
include found field

omit s in
theorem requireKey_eq_ok (op : Operator) : requireKey op c.key = .ok key := by
  rw [found, requireKey, field]
  rfl

theorem compile_of_knownType (known : c.op = .known (.compare comparison)) {ty : Option ValueType}
    (type : knownType c.valueType = .ok ty) :
    compile s c = .ok (some (.ofComparison s key comparison c.value c.array ty)) := by
  simp only [compile, known, Document.comparison, requireKey_eq_ok found field, type]
  rfl

end Field

end Endings

end Document

end Criteria
