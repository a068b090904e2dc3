import Criteria.Document.Compile
import Criteria.Proofs.Number.Reading
import Criteria.Proofs.Time.Timestamp
import Criteria.Proofs.Value.Reading
import Mathlib.Data.List.Forall2

/-!
# Items without their escapes

A relational store gets each item of a list as the scalar that it means, a document store gets it as
a text without its escapes. The text tells the scalar, since an escape cannot stand in a word, a
timestamp or a number: only texts lose a backslash.
-/

namespace Criteria
set_option autoImplicit false

/-! ## Where no backslash can stand -/

/-- Whether a scalar is of the type. -/
def ValueType.holds : ValueType → Scalar → Bool
  | .number, .number _ => true
  | .bool, .bool _ => true
  | _, _ => false

end Criteria
