import Criteria.Path
import Criteria.Text.LetterCase

/-!
# Logging

Loggers have dotted names, and a logger without a level of its own takes that of the nearest logger
above it, in the end the root's. Logging is configured once: the first configuration sets the level
of the root and its handler.
-/

namespace Criteria
set_option autoImplicit false

/-- How serious a record is. -/
inductive Level where
  | debug
  | info
  | warning
  | error
  | critical
deriving DecidableEq, Repr

namespace Level

/-- All levels. -/
def all : List Level := [debug, info, warning, error, critical]

/-- The name of a level. -/
def name : Level → String
  | .debug => "DEBUG"
  | .info => "INFO"
  | .warning => "WARNING"
  | .error => "ERROR"
  | .critical => "CRITICAL"

/-- The place of a level in the order of the levels. -/
def rank : Level → Nat
  | .debug => 10
  | .info => 20
  | .warning => 30
  | .error => 40
  | .critical => 50

/-- The level with the given name. -/
def ofName? (t : Text) : Option Level := all.find? fun level => level.name.toList == t

/-- The level that a text names in any letter case; other texts stand for `info`. -/
def ofText (t : Text) : Level := (ofName? (t.map englishCapital)).getD info

/-- The name of a level that may be missing. -/
def nameOf : Option Level → String
  | some level => level.name
  | none => "NOTSET"

/-- The names that a logger can be given a level by: those of the levels, two short forms, and the
name of the missing level. -/
def words : List (String × Option Level) :=
  [("WARN", some warning), ("FATAL", some critical), ("NOTSET", none)] ++
    all.map fun level => (level.name, some level)

end Level

/-- What is logged. -/
structure Record where
  level : Level
  logger : Text
  message : String
deriving DecidableEq, Repr

/-- The levels of the loggers, and whether logging is configured. -/
structure LogState where
  /-- The level of the root; without one, every record counts. -/
  root : Option Level := some .warning
  /-- The other loggers that have a level of their own. -/
  levels : List (Text × Level) := []
  configured : Bool := false
deriving Repr

namespace LogState

/-- Whether the name is one of the two that stand for the root. -/
def isRoot (logger : Text) : Bool := logger.isEmpty || logger == "root".toList

/-- The logger and those above it, the nearest one first and without the root. -/
def lineage (logger : Text) : List Text :=
  let segments := List.splitOn '.' logger
  (List.range segments.length).reverse.map fun n => Path.join (segments.take (n + 1))

/-- The level from which the records of a logger count. -/
def effective (s : LogState) (logger : Text) : Option Level :=
  ((lineage logger).findSome? fun name => s.levels.lookup name).or s.root

/-- Whether the record counts. -/
def admits (s : LogState) (r : Record) : Bool :=
  match s.effective r.logger with
  | some level => level.rank ≤ r.level.rank
  | none => true

/-- The logger with a level of its own, or without one. -/
def setLevel (s : LogState) (logger : Text) (level? : Option Level) : LogState :=
  if isRoot logger then { s with root := level? }
  else
    let others := s.levels.filter (·.1 != logger)
    { s with levels := match level? with
      | some level => (logger, level) :: others
      | none => others }

/-- Configures logging, unless it is configured already. -/
def configure (s : LogState) (level : Level) : LogState :=
  if s.configured then s else { s with root := some level, configured := true }

/-- The form of a line in the log. -/
def lineFormat : String := "%(asctime)s %(levelname)s [%(name)s] %(message)s"

/-- The forms in which the handlers of the root write lines. -/
def formats (s : LogState) : List String := if s.configured then [lineFormat] else []

end LogState

end Criteria
