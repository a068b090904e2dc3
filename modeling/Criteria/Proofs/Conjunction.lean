import Criteria.Document.Compile
import Criteria.Proofs.Compilation
import Criteria.Proofs.Relational.Statement
import Criteria.Relational.Compile
import Mathlib.Data.List.ReduceOption

/-!
# Conjunctions of criteria

Both compilers conjoin a list of criteria faithfully. A criterion with the unknown operator leaves no
trace, the first criterion that fails decides, and otherwise there is one predicate for every other
criterion, in the order of the list.
-/

namespace Criteria
set_option autoImplicit false

/-- Whether the criterion asks anything, as all but those with the unknown operator do. -/
def RawCriterion.asks (c : RawCriterion) : Bool := c.op != .known .unknown

theorem RawCriterion.asks_eq_false_iff {c : RawCriterion} :
    c.asks = false ↔ c.op = .known .unknown := by
  simp [asks]

section Lists

variable {α : Type} (compile : RawCriterion → Outcome α)

/-- The compiler skips the criteria that ask nothing, and no others. -/
def SkipsUnknown : Prop := ∀ c, compile c = .ok none ↔ c.asks = false

/-- The predicates of the criteria that ask something, one for each of them, in order. -/
def Answers (cs : List RawCriterion) (ps : List α) : Prop :=
  List.Forall₂ (fun c p => compile c = .ok (some p)) (cs.filter RawCriterion.asks) ps

/-- What a compiler makes of a list of criteria, if it takes nothing from them and adds nothing. -/
structure Faithful : Prop where
  /-- A criterion with the unknown operator leaves no trace, whatever its other parts are. -/
  skip : ∀ (xs : List RawCriterion) (u : RawCriterion) (ys : List RawCriterion),
    u.op = .known .unknown → compileAll compile (xs ++ [u] ++ ys) = compileAll compile (xs ++ ys)
  /-- The error of the first criterion that fails is the error of the list. -/
  fail : ∀ (xs : List RawCriterion) (c : RawCriterion) (ys : List RawCriterion) (e : CompileError),
    (∀ x ∈ xs, ∃ o, compile x = .ok o) → compile c = .error e →
      compileAll compile (xs ++ [c] ++ ys) = .error e
  /-- If no criterion fails, the predicates of two lists follow each other. -/
  conjoin : ∀ xs ys : List RawCriterion, (∀ c ∈ xs ++ ys, ∃ o, compile c = .ok o) →
    ∃ ps qs, Answers compile xs ps ∧ Answers compile ys qs ∧
      compileAll compile xs = .ok (.ofList ps) ∧ compileAll compile ys = .ok (.ofList qs) ∧
      compileAll compile (xs ++ ys) = .ok (.ofList (ps ++ qs))

variable {compile}

theorem compileAll_eq_ok {cs : List RawCriterion} {ps : List α}
    (run : (Run.ofList compile cs).outcome = .ok ps) : compileAll compile cs = .ok (.ofList ps) := by
  rw [compileAll, run]
  rfl

section Skipping

variable (skips : SkipsUnknown compile)
include skips

theorem answers_of_outcomes {cs : List RawCriterion} {os : List (Option α)}
    (compiled : List.Forall₂ (fun c o => compile c = .ok o) cs os) :
    Answers compile cs os.reduceOption := by
  induction compiled with
  | nil => exact .nil
  | @cons c o cs os head _ ih =>
    cases o with
    | none =>
      have silent : c.asks = false := (skips c).1 head
      rwa [Answers, List.filter_cons_of_neg (by simp [silent]), List.reduceOption_cons_of_none]
    | some p =>
      have asks : c.asks = true := by
        by_contra silent
        have none := (skips c).2 (Bool.eq_false_iff.2 silent)
        cases head.symm.trans none
      rw [Answers, List.filter_cons_of_pos asks, List.reduceOption_cons_of_some]
      exact .cons head ih

theorem exists_answers {cs : List RawCriterion} (compiles : ∀ c ∈ cs, ∃ o, compile c = .ok o) :
    ∃ ps, Answers compile cs ps ∧ (Run.ofList compile cs).outcome = .ok ps := by
  obtain ⟨os, compiled⟩ := Run.exists_outcomes compiles
  exact ⟨os.reduceOption, answers_of_outcomes skips compiled,
    Run.outcome_eq_ok_iff.2 ⟨os, compiled, rfl⟩⟩

/-- A compiler that skips nothing but the unknown operator is faithful. -/
theorem SkipsUnknown.faithful : Faithful compile where
  skip := by
    intro xs u ys unknown
    have none : compile u = .ok none := (skips u).2 (RawCriterion.asks_eq_false_iff.2 unknown)
    have tail : (Run.ofList compile (u :: ys)).outcome = (Run.ofList compile ys).outcome := by
      rw [Run.ofList, none]
      rfl
    rw [List.append_assoc, List.singleton_append, compileAll, compileAll, Run.outcome_append,
      Run.outcome_append, tail]
  fail := by
    intro xs c ys e before failed
    obtain ⟨ps, -, run⟩ := exists_answers skips before
    have tail : (Run.ofList compile (c :: ys)).outcome = .error e := by
      rw [Run.ofList, failed]
    rw [List.append_assoc, List.singleton_append, compileAll, Run.outcome_append, run, tail]
    rfl
  conjoin := by
    intro xs ys compiles
    obtain ⟨ps, left, run⟩ := exists_answers skips fun c mem =>
      compiles c (List.mem_append_left ys mem)
    obtain ⟨qs, right, run'⟩ := exists_answers skips fun c mem =>
      compiles c (List.mem_append_right xs mem)
    refine ⟨ps, qs, left, right, compileAll_eq_ok run, compileAll_eq_ok run', ?_⟩
    apply compileAll_eq_ok
    rw [Run.outcome_append, run, run']
    rfl

end Skipping

end Lists

/-! ## The two compilers -/

theorem Document.skipsUnknown (s : Separators) : SkipsUnknown (Document.compile s) := by
  intro c
  rw [RawCriterion.asks_eq_false_iff, Document.compile]
  split <;> simp_all [map_some_ne]

theorem Relational.skipsUnknown {E : Type} (schema : Schema E) (root : E) (s : Separators)
    (navigation : Navigation E) : SkipsUnknown (Relational.compile schema root s navigation) := by
  intro c
  rw [RawCriterion.asks_eq_false_iff, Relational.compile]
  split <;> simp_all [map_some_ne]

/-- The statement of one clause, or of several: those between `AND`s, unless some are constants. -/
structure Conjunction.Words {E : Type} {schema : Schema E} (layout : schema.Layout)
    (clauses : List (Clause E)) : Prop where
  /-- Clauses that are no constants are written one after the other. -/
  plain : NoConstants clauses → (ofList clauses).statement? layout = match clauses with
    | [] => none
    | [clause] => some (.ofFragments (clause.fragments layout false))
    | clauses => some (.ofFragments (List.intercalate [.sql " AND "]
        (clauses.map fun clause => clause.enclose (clause.fragments layout false))))
  /-- A single constant stands for itself. -/
  bare : ∀ value, clauses = [.constant value] →
    (ofList clauses).statement? layout = some ⟨(Scalar.bool value).display, []⟩
  /-- One of several clauses that is false makes all of them false. -/
  refuted : 2 ≤ clauses.length → .constant false ∈ clauses →
    (ofList clauses).statement? layout = some ⟨"false", []⟩
  /-- What is true of all records is left out of several clauses. -/
  rest : 2 ≤ clauses.length → .constant false ∉ clauses →
    (ofList clauses).statement? layout = match clauses.filter (·.constant?.isNone) with
      | [] => some ⟨"true", []⟩
      | rest => (ofList rest).statement? layout

namespace Conjunction

variable {E : Type} {schema : Schema E} (layout : schema.Layout)

theorem statement?_eq {clauses : List (Clause E)} (nonempty : clauses ≠ []) :
    (ofList clauses).statement? layout =
      some (.ofFragments ((ofList clauses).fragments layout)) := by
  match clauses with
  | [] => exact absurd rfl nonempty
  | [_] | _ :: _ :: _ => rfl

theorem statement?_of_several {clauses : List (Clause E)} (several : 2 ≤ clauses.length) :
    (ofList clauses).statement? layout =
      some (.ofFragments (joined layout (essential clauses))) := by
  match clauses with
  | _ :: _ :: _ => rfl

theorem words (clauses : List (Clause E)) : Words layout clauses where
  plain := by
    intro free
    match clauses with
    | [] => rfl
    | [_] | _ :: _ :: _ =>
      rw [statement?_eq layout (List.cons_ne_nil _ _), fragments_of_noConstants layout free]
      rfl
  bare := by
    rintro value rfl
    cases value <;> rfl
  refuted := by
    intro several mem
    rw [statement?_of_several layout several, essential_of_false mem]
    rfl
  rest := by
    intro several possible
    rw [statement?_of_several layout several, essential_of_not_false possible]
    cases rest : clauses.filter (·.constant?.isNone) with
    | nil => rfl
    | cons clause others =>
      have free : NoConstants (clause :: others) := by
        rw [← rest]
        intro clause mem
        exact Option.isNone_iff_eq_none.1 (List.mem_filter.1 mem).2
      show _ = (ofList (clause :: others)).statement? layout
      rw [statement?_eq layout (List.cons_ne_nil _ _), fragments_of_noConstants layout free]

end Conjunction

/-- **Both compilers conjoin criteria faithfully.** The conjunction of no filters is the empty
document, that of one filter is the filter, and that of more is their list; the conjunction of no
clauses is no statement, that of one clause is its statement, and that of more is the statement of
all of them between `AND`s, from which constants are left out. -/
theorem faithful_compileAll {E : Type} (schema : Schema E) (root : E) (s : Separators)
    (navigation : Navigation E) :
    (Faithful (Document.compile s) ∧
      ∀ fs : List Filter, (Conjunction.ofList fs).document = match fs with
        | [] => .object []
        | [f] => f.document
        | fs => .single "$and" (.array (fs.map Filter.document))) ∧
    Faithful (Relational.compile schema root s navigation) ∧
      ∀ (layout : schema.Layout) (clauses : List (Clause E)), Conjunction.Words layout clauses := by
  refine ⟨⟨(Document.skipsUnknown s).faithful, ?_⟩,
    (Relational.skipsUnknown schema root s navigation).faithful, Conjunction.words⟩
  intro fs
  match fs with
  | [] | [_] | _ :: _ :: _ => rfl

end Criteria
