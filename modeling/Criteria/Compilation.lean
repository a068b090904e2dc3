import Criteria.CompileError

/-!
# Compiling lists of criteria

A compiler turns one criterion into a predicate, or into nothing if its operator is unknown. A list
is compiled in order up to the first criterion that fails, and the predicates are conjoined.
-/

namespace Criteria
set_option autoImplicit false

/-- What becomes of one criterion. -/
abbrev Outcome (α : Type) := Except CompileError (Option α)

/-- The conjunction of some predicates: a single one stands for itself. -/
inductive Conjunction (α : Type) where
  | empty
  | single (predicate : α)
  | all (predicates : List α)
deriving DecidableEq, Repr

namespace Conjunction

/-- The conjunction of the predicates of a list. -/
def ofList {α : Type} : List α → Conjunction α
  | [] => empty
  | [p] => single p
  | ps => all ps

/-- The predicates that are conjoined. -/
def toList {α : Type} : Conjunction α → List α
  | empty => []
  | single p => [p]
  | all ps => ps

end Conjunction

/-- What a compiler did with one criterion. -/
inductive Event (α : Type) where
  | skipped (c : RawCriterion)
  | compiled (c : RawCriterion) (predicate : α)
deriving Repr

/-- The events up to the first failure, and the predicates unless there is one. -/
structure Run (α : Type) where
  events : List (Event α)
  outcome : Except CompileError (List α)

namespace Run

/-- Puts an event, and its predicate if it has one, before a run. -/
def cons {α : Type} (c : RawCriterion) (predicate? : Option α) (rest : Run α) : Run α :=
  match predicate? with
  | none => { rest with events := .skipped c :: rest.events }
  | some p => ⟨.compiled c p :: rest.events, rest.outcome.map (p :: ·)⟩

/-- Compiles the criteria in order. -/
def ofList {α : Type} (compile : RawCriterion → Outcome α) : List RawCriterion → Run α
  | [] => ⟨[], .ok []⟩
  | c :: cs =>
    match compile c with
    | .error e => ⟨[], .error e⟩
    | .ok predicate? => cons c predicate? (ofList compile cs)

end Run

/-- The conjunction of what the criteria compile to, or the error of the first one that fails. -/
def compileAll {α : Type} (compile : RawCriterion → Outcome α) (cs : List RawCriterion) :
    Except CompileError (Conjunction α) :=
  (Run.ofList compile cs).outcome.map Conjunction.ofList

end Criteria
