import Criteria.Proofs.Relational.Navigation
import Criteria.Proofs.Value.Writing
import Criteria.Relational.Orders

/-!
# Values stay out of the text

Two lists of criteria that ask the same of the same attributes are compiled to statements with the
same text and the same names, or fail with the same error. Their values may differ freely, except
that null and the truth values are literals of the text where equality is asked for. A constant is
compared with the value on the spot, so it has to answer both criteria alike.
-/

namespace Criteria
set_option autoImplicit false

/-- A value that stands in the text of a statement. -/
inductive Literal where
  | null
  | truth (b : Bool)
deriving DecidableEq, Repr

/-- The literal that a value is written as; any other value is bound to a placeholder. -/
def Value.literal? : Value → Option Literal
  | .scalar .null => some .null
  | .scalar (.bool b) => some (.truth b)
  | _ => none

/-- The value that a literal stands for. -/
def Literal.value : Literal → Value
  | .null => .scalar .null
  | .truth b => .scalar (.bool b)

variable {E : Type}

namespace Question

section Compare

variable {v w : Value} {c : Comparison} {a : Attribute E}
  (constant : ∀ k, a = .constant k → k.compare c v = k.compare c w)
include constant

end Compare

end Question

/-! ## Paths -/

namespace Relational

variable {s : Separators}

end Relational

end Criteria
