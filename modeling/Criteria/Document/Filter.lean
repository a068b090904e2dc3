import Criteria.Compilation
import Criteria.Pattern

/-!
# Document filters

A filter tests one field of a document, or hedges: the field passes if either of two tests holds. A
filter is handed to the store as a document of its own.
-/

namespace Criteria
set_option autoImplicit false

/-- A test on the content of a field. -/
inductive FieldTest where
  | compare (c : Comparison) (operand : Scalar)
  | oneOf (operands : List Scalar)
  | noneOf (operands : List Scalar)
  | present (expected : Bool)
  | like (p : Pattern)
  | unlike (p : Pattern)
deriving DecidableEq, Repr

/-- A filter on one field. -/
inductive Filter where
  | field (key : Text) (test : FieldTest)
  /-- Either of two tests of the same field. -/
  | hedge (key : Text) (plain typed : FieldTest)
deriving DecidableEq, Repr

/-- A document of the store, as far as filters need one. -/
inductive Document where
  | scalar (s : Scalar)
  | pattern (p : Pattern)
  | array (items : List Document)
  | object (fields : List (Text × Document))

/-- The word for a comparison in a filter document. -/
def Comparison.filterWord : Comparison → String
  | .eq => "$eq"
  | .ne => "$ne"
  | .gt => "$gt"
  | .ge => "$gte"
  | .lt => "$lt"
  | .le => "$lte"

namespace Document

/-- A document with one field of a fixed name. -/
def single (name : String) (d : Document) : Document := .object [(name.toList, d)]

mutual

/-- A document in a message. -/
def display : Document → String
  | .scalar s => s.display
  | .pattern p => p.display
  | .array items => bracketed (displayAll items)
  | .object fields => "\x7b" ++ ", ".intercalate (displayFields fields) ++ "\x7d"

/-- Each of the documents in a message. -/
def displayAll : List Document → List String
  | [] => []
  | d :: ds => display d :: displayAll ds

/-- Each of the fields in a message. -/
def displayFields : List (Text × Document) → List String
  | [] => []
  | (name, d) :: fields => ((Scalar.text name).display ++ ": " ++ display d) :: displayFields fields

end

end Document

/-- The test as the store reads it. -/
def FieldTest.document : FieldTest → Document
  | .compare c operand => .single c.filterWord (.scalar operand)
  | .oneOf operands => .single "$in" (.array (operands.map .scalar))
  | .noneOf operands => .single "$nin" (.array (operands.map .scalar))
  | .present expected => .single "$exists" (.scalar (.bool expected))
  | .like p => .single "$regex" (.pattern p)
  | .unlike p => .single "$not" (.pattern p)

/-- The filter as the store reads it. -/
def Filter.document : Filter → Document
  | .field key test => .object [(key, test.document)]
  | .hedge key plain typed =>
    .single "$or" (.array [.object [(key, plain.document)], .object [(key, typed.document)]])

/-- A conjunction of filters as the store reads it; the empty one is the empty document. -/
def Conjunction.document : Conjunction Filter → Document
  | .empty => .object []
  | .single f => f.document
  | .all fs => .single "$and" (.array (fs.map Filter.document))

end Criteria
