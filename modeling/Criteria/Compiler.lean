import Criteria.Document.Compile
import Criteria.Log
import Criteria.Relational.Compile
import Criteria.Relational.Statement

/-!
# Compilers

A compiler keeps the separators that it was made with. It answers criteria with a conjunction of the
predicates of its store, and records what it did with each criterion.
-/

namespace Criteria
set_option autoImplicit false

/-- A compiler for criteria about the entities `E`. -/
inductive Compiler (E : Type) where
  | document (separators : Separators)
  /-- The paths of the criteria start at `root`. -/
  | relational (root : E) (separators : Separators)
deriving DecidableEq, Repr

/-- What some criteria compile to. -/
inductive Query (E : Type) where
  | filters (fs : Conjunction Filter)
  | clauses (cs : Conjunction (Clause E))
deriving Repr

/-- The logger of the compilers for a store. -/
def Backend.logger : Backend → Text
  | .document => "datasearch.querydsl.compilers.document".toList
  | .relational => "datasearch.querydsl.compilers.relational".toList

/-- The logger of what all compilers have in common. -/
def commonLogger : Text := "datasearch.querydsl.compilers.base".toList

/-- The record of an event, where `display` shows a predicate. -/
def Event.record {α : Type} (backend : Backend) (display : α → String) : Event α → Record
  | .skipped c => ⟨.debug, commonLogger,
      "[" ++ backend.compilerName ++ "] Skipping criterion with unknown operator: " ++ c.display⟩
  | .compiled c predicate => ⟨.debug, backend.logger,
      "[" ++ backend.compilerName ++ "] Compiled criterion " ++ c.display ++ " -> " ++
        display predicate⟩

namespace Compiler

variable {E : Type} {schema : Schema E}

/-- The store of the compiler. -/
def backend : Compiler E → Backend
  | .document _ => .document
  | .relational _ _ => .relational

/-- The separators that the compiler was made with. -/
def separators : Compiler E → Separators
  | .document s => s
  | .relational _ s => s

/-- The conjunction of what the criteria compile to, or the error of the first one that fails; and
the records up to there. -/
def run (layout : schema.Layout) (compiler : Compiler E) (cs : List RawCriterion) :
    Except CompileError (Query E) × List Record :=
  match compiler with
  | .document s =>
    let r := Run.ofList (Document.compile s) cs
    (r.outcome.map fun fs => .filters (.ofList fs),
      r.events.map (Event.record .document fun f => f.document.display))
  | .relational root s =>
    let r := Run.ofList (Relational.compile schema root s .nested) cs
    (r.outcome.map fun clauses => .clauses (.ofList clauses),
      r.events.map (Event.record .relational fun clause =>
        (Conjunction.single clause).statementDisplay layout))

end Compiler

end Criteria
