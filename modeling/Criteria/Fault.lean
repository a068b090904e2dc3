import Criteria.Value.Display

/-!
# Faults

A fault is what goes wrong for a reason that the caller can read: a kind, a message and named
details. The kinds form a tree.
-/

namespace Criteria
set_option autoImplicit false

/-- The kinds of faults. -/
inductive FaultKind where
  | general
  /-- A criterion cannot be compiled for its target. -/
  | validation
  /-- The path of a criterion is blank or leads nowhere. -/
  | invalidField
  /-- The operator of a criterion is none of the known ones. -/
  | unsupportedOperator
  /-- The configuration is not usable. -/
  | configuration
  /-- A setting has a value that is not usable. -/
  | invalidSetting
deriving DecidableEq, Repr

namespace FaultKind

/-- The name under which faults of the kind are reported. -/
def name : FaultKind → String
  | .general => "DataSearchError"
  | .validation => "ValidationError"
  | .invalidField => "InvalidFieldError"
  | .unsupportedOperator => "UnsupportedOperatorError"
  | .configuration => "ConfigurationError"
  | .invalidSetting => "InvalidConfigError"

/-- All kinds. -/
def all : List FaultKind :=
  [general, validation, invalidField, unsupportedOperator, configuration, invalidSetting]

/-- The kind with the given name. -/
def ofName? (name : String) : Option FaultKind := all.find? (·.name == name)

/-- The kind and those that it is a case of, the most general one last. -/
def ancestry : FaultKind → List FaultKind
  | .general => [.general]
  | .validation => [.validation, .general]
  | .invalidField => [.invalidField, .validation, .general]
  | .unsupportedOperator => [.unsupportedOperator, .validation, .general]
  | .configuration => [.configuration, .general]
  | .invalidSetting => [.invalidSetting, .configuration, .general]

end FaultKind

/-- What went wrong. -/
structure Fault where
  kind : FaultKind
  message : String := ""
  details : List (String × Value) := []
deriving Repr

namespace Fault

/-- The names that no detail can have: they stand for the fault itself and for its message. -/
def reservedNames : List String := ["self", "message"]

/-- The fault with the given parts, unless a detail has a reserved name. -/
def ofParts? (kind : FaultKind) (message : String) (details : List (String × Value)) :
    Option Fault :=
  if details.any fun detail => reservedNames.contains detail.1 then none
  else some ⟨kind, message, details⟩

/-- The message with the details in parentheses; either part alone if the other is empty. -/
def text (f : Fault) : String :=
  let details := ", ".intercalate (f.details.map fun (name, v) => name ++ "=" ++ v.display)
  if f.details.isEmpty then f.message
  else if f.message.isEmpty then details
  else f.message ++ " (" ++ details ++ ")"

/-- A text between quotes. -/
def quote (s : String) : String := (Scalar.text s.toList).display

/-- All parts of the fault by name. -/
def display (f : Fault) : String :=
  let details := ", ".intercalate (f.details.map fun (name, v) => quote name ++ ": " ++ v.display)
  f.kind.name ++ "(message=" ++ quote f.message ++ ", details=\x7b" ++ details ++ "\x7d)"

end Fault

end Criteria
