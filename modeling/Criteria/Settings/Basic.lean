import Criteria.Datum
import Criteria.Number.Reading

/-!
# Settings

The settings of the library are four texts, each with a default. They may be changed without a check.
-/

namespace Criteria
set_option autoImplicit false

/-- The names of the settings. -/
inductive Setting where
  /-- The store that criteria are compiled for. -/
  | backend
  /-- The grouping separator of numbers. -/
  | grouping
  /-- The decimal separator of numbers. -/
  | decimal
  /-- The level at which messages are logged. -/
  | logLevel
deriving DecidableEq, Repr

namespace Setting

/-- All settings, in the order in which their problems are reported. -/
def all : List Setting := [backend, grouping, decimal, logLevel]

/-- The name in data and in the environment. -/
def name : Setting → String
  | .backend => "SEARCH_BACKEND"
  | .grouping => "NUMBER_GROUPING_SEPARATOR"
  | .decimal => "NUMBER_DECIMAL_SEPARATOR"
  | .logLevel => "LOG_LEVEL"

/-- The setting with the given name. -/
def ofName? (name : String) : Option Setting := all.find? (·.name == name)

/-- The value of a setting that nobody gives. -/
def default : Setting → Text
  | .backend => "sqlalchemy".toList
  | .grouping => [',']
  | .decimal => ['.']
  | .logLevel => "INFO".toList

end Setting

/-- The value of every setting. It is a text unless somebody changed it without a check. -/
structure Settings where
  backend : Datum := .text (Setting.default .backend)
  grouping : Datum := .text (Setting.default .grouping)
  decimal : Datum := .text (Setting.default .decimal)
  logLevel : Datum := .text (Setting.default .logLevel)
deriving Repr

namespace Settings

/-- The value of a setting. -/
def get (s : Settings) : Setting → Datum
  | .backend => s.backend
  | .grouping => s.grouping
  | .decimal => s.decimal
  | .logLevel => s.logLevel

/-- The settings with another value for one of them, which is not checked. -/
def set (s : Settings) (value : Datum) : Setting → Settings
  | .backend => { s with backend := value }
  | .grouping => { s with grouping := value }
  | .decimal => { s with decimal := value }
  | .logLevel => { s with logLevel := value }

/-- The separators for numbers, if both are texts. -/
def separators? (s : Settings) : Option Separators := do
  return ⟨← s.grouping.text?, ← s.decimal.text?⟩

end Settings

end Criteria
