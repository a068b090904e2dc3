import Criteria.Compilation
import Mathlib.Data.List.Forall2
import Mathlib.Data.List.ReduceOption

/-!
# Runs over lists of criteria

A run goes through the criteria one by one: the outcome for a list is that for its head, followed by
that for its tail. So what holds of the predicates one by one holds of the whole list. A run
succeeds exactly if every criterion compiles, and its predicates are those of the criteria in order.
-/

namespace Criteria
set_option autoImplicit false

/-! ## Steps that succeed or fail -/

section Steps

variable {ε α β : Type} {x : Except ε α} {b : β}

theorem bind_eq_ok {f : α → Except ε β} : x >>= f = .ok b ↔ ∃ a, x = .ok a ∧ f a = .ok b := by
  cases x with
  | error e =>
    constructor
    · intro h
      cases h
    · rintro ⟨a, h, -⟩
      cases h
  | ok a =>
    constructor
    · intro h
      exact ⟨a, rfl, h⟩
    · rintro ⟨a, eq, h⟩
      cases eq
      exact h

theorem map_eq_ok {f : α → β} : x.map f = .ok b ↔ ∃ a, x = .ok a ∧ f a = b := by
  cases x with
  | error e =>
    constructor
    · intro h
      cases h
    · rintro ⟨a, h, -⟩
      cases h
  | ok a => simp [Except.map]

theorem bind_eq_error {f : α → Except ε β} {e : ε} :
    x >>= f = .error e ↔ x = .error e ∨ ∃ a, x = .ok a ∧ f a = .error e := by
  cases x with
  | error e' =>
    constructor
    · intro h
      cases h
      exact Or.inl rfl
    · rintro (h | ⟨a, h, -⟩)
      · cases h
        rfl
      · cases h
  | ok a =>
    constructor
    · intro h
      exact Or.inr ⟨a, rfl, h⟩
    · rintro (h | ⟨a, eq, h⟩)
      · cases h
      · cases eq
        exact h

theorem map_eq_error {f : α → β} {e : ε} : x.map f = .error e ↔ x = .error e := by
  cases x <;> simp [Except.map]

theorem isOk_map (f : α → β) (x : Except ε α) : (x.map f).isOk = x.isOk := by
  cases x <;> rfl

theorem map_some_ne (x : Except ε α) : x.map some ≠ .ok none := by
  cases x <;> simp [Except.map]

end Steps

/-! ## Endings -/

/-- How compiling a criterion can end: with no predicate, with one, with a fault of some kind, or
with an error that is no fault. -/
inductive Ending where
  | skipped
  | predicate
  | fault (kind : FaultKind)
  | failure (e : CompileError)
deriving DecidableEq, Repr

/-- The ending that an error makes. -/
def CompileError.ending (e : CompileError) : Ending :=
  match e.fault? with
  | some f => .fault f.kind
  | none => .failure e

/-- The ending of an outcome. -/
def Outcome.ending {α : Type} : Outcome α → Ending
  | .ok none => .skipped
  | .ok (some _) => .predicate
  | .error e => e.ending

/-! ## Lists -/

theorem Conjunction.toList_ofList {α : Type} (ps : List α) : (ofList ps).toList = ps := by
  match ps with
  | [] | [_] | _ :: _ :: _ => rfl

namespace Run

variable {α β : Type} {compile : RawCriterion → Outcome α}

theorem outcome_cons (c : RawCriterion) (cs : List RawCriterion) :
    (ofList compile (c :: cs)).outcome =
      (compile c).bind fun predicate? =>
        (ofList compile cs).outcome.map (predicate?.toList ++ ·) := by
  rw [ofList]
  cases compile c with
  | error e => rfl
  | ok predicate? =>
    cases predicate? with
    | none =>
      show (ofList compile cs).outcome = (ofList compile cs).outcome.map id
      cases (ofList compile cs).outcome <;> rfl
    | some p => rfl

/-- A run over one list and then another: an error in the first one decides, and the predicates
follow each other. -/
theorem outcome_append (cs ds : List RawCriterion) :
    (ofList compile (cs ++ ds)).outcome =
      (ofList compile cs).outcome.bind fun ps => (ofList compile ds).outcome.map (ps ++ ·) := by
  induction cs with
  | nil =>
    show (ofList compile ds).outcome = (ofList compile ds).outcome.map id
    cases (ofList compile ds).outcome <;> rfl
  | cons c cs ih =>
    rw [List.cons_append, outcome_cons, outcome_cons, ih]
    cases compile c with
    | error e => rfl
    | ok predicate? =>
      cases (ofList compile cs).outcome with
      | error e => rfl
      | ok ps =>
        cases (ofList compile ds).outcome with
        | error e => rfl
        | ok qs => exact congrArg Except.ok (List.append_assoc _ ps qs).symm

/-- A run gives predicates exactly if every criterion compiles: those of the criteria, in order. -/
theorem outcome_eq_ok_iff {cs : List RawCriterion} {ps : List α} :
    (ofList compile cs).outcome = .ok ps ↔
      ∃ os, List.Forall₂ (fun c o => compile c = .ok o) cs os ∧ os.reduceOption = ps := by
  induction cs generalizing ps with
  | nil =>
    constructor
    · intro run
      cases run
      exact ⟨[], .nil, rfl⟩
    · rintro ⟨os, compiled, rfl⟩
      cases compiled
      rfl
  | cons c cs ih =>
    rw [outcome_cons]
    constructor
    · intro run
      obtain ⟨o, head, rest⟩ := bind_eq_ok.1 run
      obtain ⟨qs, tail, rfl⟩ := map_eq_ok.1 rest
      obtain ⟨os, compiled, rfl⟩ := ih.1 tail
      refine ⟨o :: os, .cons head compiled, ?_⟩
      cases o <;> rfl
    · rintro ⟨os, compiled, rfl⟩
      cases compiled with
      | @cons _ o _ os head tail =>
        rw [head, ih.2 ⟨os, tail, rfl⟩]
        cases o <;> rfl

/-- The outcome of a run is that of going through the criteria without taking note of anything. -/
theorem outcome_eq_mapM (cs : List RawCriterion) :
    (ofList compile cs).outcome =
      (cs.mapM (m := Except CompileError) compile).map List.reduceOption := by
  induction cs with
  | nil => rfl
  | cons c cs ih =>
    rw [outcome_cons, ih, List.mapM_cons]
    cases compile c with
    | error e => rfl
    | ok predicate? =>
      cases cs.mapM (m := Except CompileError) compile with
      | error e => rfl
      | ok os => cases predicate? <;> rfl

theorem exists_outcomes {cs : List RawCriterion} (compiles : ∀ c ∈ cs, ∃ o, compile c = .ok o) :
    ∃ os, List.Forall₂ (fun c o => compile c = .ok o) cs os := by
  induction cs with
  | nil => exact ⟨[], .nil⟩
  | cons c cs ih =>
    obtain ⟨o, head⟩ := compiles c List.mem_cons_self
    obtain ⟨os, tail⟩ := ih fun d mem => compiles d (List.mem_cons_of_mem c mem)
    exact ⟨o :: os, .cons head tail⟩

/-- The predicates of a run are those that a criterion compiles to. -/
theorem mem_iff {cs : List RawCriterion} {os : List (Option α)} {p : α}
    (compiled : List.Forall₂ (fun c o => compile c = .ok o) cs os) :
    (∃ c ∈ cs, compile c = .ok (some p)) ↔ p ∈ os.reduceOption := by
  rw [List.reduceOption_mem_iff]
  induction compiled with
  | nil => simp
  | @cons c o cs os head _ ih =>
    rw [List.exists_mem_cons_iff, List.mem_cons, ih, head, Except.ok.injEq, eq_comm]

/-- Every predicate of a run is that of a criterion. -/
theorem exists_of_mem {cs : List RawCriterion} {os : List (Option α)} {p : α}
    (compiled : List.Forall₂ (fun c o => compile c = .ok o) cs os) (mem : p ∈ os.reduceOption) :
    ∃ c, compile c = .ok (some p) := by
  obtain ⟨c, -, one⟩ := (mem_iff compiled).2 mem
  exact ⟨c, one⟩

end Run

end Criteria
