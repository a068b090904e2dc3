import Criteria.Criterion.Checking
import Criteria.Settings.Basic
import Criteria.Settings.EnvFile

/-!
# Loading settings

A setting is taken from the data given to the program, else from its environment, else from an
environment file, else from its default. The names in the environment and in the file count in any
letter case. Every setting is checked, and all problems are reported.
-/

namespace Criteria
set_option autoImplicit false

namespace Settings

/-- The words for the stores that the settings may choose. -/
def backendWords : List Text := ["sqlalchemy".toList, "mongodb".toList]

/-- The text of a setting, if the setting may have it. -/
def check (setting : Setting) (d : Datum) : Except ProblemKind Text :=
  match setting with
  | .backend => match d with
    | .text t => if t ∈ backendWords then .ok t else .error .notBackend
    | _ => .error .notBackend
  | .grouping | .decimal | .logLevel => d.toText

/-- The last value in the list whose name is that of the setting in some letter case. -/
def lookup? {α : Type} (setting : Setting) (named : List (Text × α)) : Option α :=
  (named.reverse.find? fun entry => lowercase entry.1 = lowercase setting.name.toList).map (·.2)

/-- Where the settings are taken from. -/
structure Sources where
  given : List (String × Datum) := []
  environment : List (Text × Text) := []
  /-- The content of the environment file, if there is one. -/
  file : Option Text := none

namespace Sources

/-- The value of a setting in the environment file. -/
def inFile? (s : Sources) (setting : Setting) : Option Text := do
  let assigned := EnvFile.read s.environment (← s.file)
  (← lookup? setting (assigned.map fun a => (a.name, a.value)))

/-- The value of a setting from the first source that has one. -/
def datum (s : Sources) (setting : Setting) : Datum :=
  match s.given.lookup setting.name with
  | some d => d
  | none =>
    .text (((lookup? setting s.environment).or (s.inFile? setting)).getD setting.default)

/-- The checked value of a setting. -/
def value (s : Sources) (setting : Setting) : Checked Text :=
  (check setting (s.datum setting)).mapError fun kind => [⟨some setting.name, kind⟩]

end Sources

/-- The settings from all sources. -/
def load (s : Sources) : Checked Settings :=
  ((s.value .backend).both ((s.value .grouping).both ((s.value .decimal).both
    (s.value .logLevel)))).map fun (backend, grouping, decimal, logLevel) =>
      ⟨.text backend, .text grouping, .text decimal, .text logLevel⟩

end Settings

end Criteria
