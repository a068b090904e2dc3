import Criteria.Value.Basic

/-!
# Loose data

What arrives from outside, such as a decoded request, before anybody checks it.
-/

namespace Criteria
set_option autoImplicit false

/-- Loose data. -/
inductive Datum where
  | null
  | bool (b : Bool)
  | number (n : Number)
  | text (t : Text)
  | array (items : List Datum)
  | record (fields : List (String × Datum))
deriving Repr

namespace Datum

/-- The text, if the datum is one. -/
def text? : Datum → Option Text
  | .text t => some t
  | _ => none

/-- Whether the datum says nothing: null, false, zero, or without parts. -/
def isVoid : Datum → Bool
  | .null => true
  | .bool b => !b
  | .number n => n.toRat? == some 0
  | .text t => t.isEmpty
  | .array items => items.isEmpty
  | .record fields => fields.isEmpty

end Datum

end Criteria
