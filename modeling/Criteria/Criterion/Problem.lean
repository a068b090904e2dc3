/-!
# Problems of loose data

What may be wrong with a field of loose data, and where.
-/

namespace Criteria
set_option autoImplicit false

/-- What is wrong with a field. -/
inductive ProblemKind where
  /-- A field without a default is absent. -/
  | missing
  /-- A text is expected. -/
  | notText
  /-- The name of an operator is expected. -/
  | notOperator
  /-- The name of a value type is expected. -/
  | notValueType
  /-- The word or number names no truth value. -/
  | unreadableBool
  /-- Neither a truth value nor a word or number that could name one. -/
  | notBool
  /-- The whole is no record of fields. -/
  | notRecord
  /-- The field of a finished criterion cannot be set. -/
  | frozen
  /-- The name of a backend is expected. -/
  | notBackend
deriving DecidableEq, Repr

namespace ProblemKind

/-- The name under which a kind of problem is reported. -/
def code : ProblemKind → String
  | .missing => "missing"
  | .notText => "string_type"
  | .notOperator | .notValueType => "enum"
  | .unreadableBool => "bool_parsing"
  | .notBool => "bool_type"
  | .notRecord => "model_type"
  | .frozen => "frozen_instance"
  | .notBackend => "literal_error"

/-- The message for a reader. -/
def message : ProblemKind → String
  | .missing => "Field required"
  | .notText => "Input should be a valid string"
  | .notOperator =>
    "Input should be 'EQ', 'NE', 'GT', 'GE', 'LT', 'LE', 'EXISTS' or 'UNKNOWN'"
  | .notValueType => "Input should be 'NUMBER' or 'BOOLEAN'"
  | .unreadableBool => "Input should be a valid boolean, unable to interpret input"
  | .notBool => "Input should be a valid boolean"
  | .notRecord => "Input should be a valid dictionary or instance of SearchCriteria"
  | .frozen => "Instance is frozen"
  | .notBackend => "Input should be 'sqlalchemy' or 'mongodb'"

end ProblemKind

/-- A problem and the field that has it; no field stands for the whole. -/
structure Problem where
  field : Option String
  kind : ProblemKind
deriving DecidableEq, Repr

end Criteria
