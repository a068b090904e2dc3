import Criteria.Compiler
import Criteria.Criterion.Problem
import Criteria.Settings.Basic
import Criteria.Value.Writing

/-!
# Sessions

A session has settings, which may change, a log, and compilers under names. It takes requests, and
answers each of them.
-/

namespace Criteria
set_option autoImplicit false

/-- The state of a session. -/
structure Session (E : Type) where
  settings : Settings := {}
  log : LogState := {}
  /-- From the start there is a compiler with the default separators. -/
  compilers : List (Text × Compiler E) := [("default_mongo".toList, .document {})]
deriving Repr

/-- How a message is logged. -/
inductive LogCall where
  /-- At the level in the settings. -/
  | message
  | debug
deriving DecidableEq, Repr

/-- What a session is asked to do. -/
inductive Request (E : Type) where
  /-- Changes the setting of the given name. -/
  | set (name : String) (value : Datum)
  /-- Configures logging. -/
  | setup (level : Option Text)
  /-- Gives a logger the level of the given name. -/
  | level (logger : Text) (level : Option Text)
  /-- Logs a text, with the arguments put in if there are any. -/
  | log (logger : Option Text) (call : LogCall) (text : Text) (arguments : List Text)
  /-- Makes the compiler for a backend, that of the settings if none is named. -/
  | get (id : Text) (backend : Option Text) (root : Option E)
  /-- Makes a compiler, relational if there is a root. -/
  | make (id : Text) (root : Option E) (grouping decimal : Option Text)
  | compile (id : Text) (criteria : Except (List Problem) (List RawCriterion))
  | read (text : Option Text)
  | readNumber (text : Option Text)
  | write (v : Value)

/-- Why a request fails. -/
inductive SessionError where
  | fault (f : Fault)
  | problems (ps : List Problem)
  | compile (e : CompileError)
  | write (e : WriteError)
  /-- There is no compiler of that name. -/
  | noCompiler
  /-- There is no setting or level of that name. -/
  | unknownName
  /-- There is no text where a word is expected. -/
  | noWord
  /-- There is no text where a separator or the name of a level is expected. -/
  | noText
  /-- The arguments of a log text do not fit its signs. -/
  | argumentMismatch

/-- The answer to a request. -/
inductive Reply (E : Type) where
  | done
  | settings (s : Settings)
  | compiler (c : Compiler E)
  | query (q : Query E)
  | value (v : Value)
  | number (n : Option Number)
  | text (t : Text)
  | failure (e : SessionError)

/-- The logger of the choice of a backend. -/
def choiceLogger : Text := "datasearch.querydsl.compilers".toList

/-- The logger of messages that name none. -/
def plainLogger : Text := "datasearch.logger".toList

/-- The logger whose records, and those of the loggers below it, a session shows. -/
def libraryLogger : Text := "datasearch".toList

end Criteria
