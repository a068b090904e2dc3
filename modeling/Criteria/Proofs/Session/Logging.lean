import Criteria.Proofs.Conjunction
import Criteria.Proofs.Document.Rendering
import Criteria.Proofs.Session.Configuration

/-!
# Logging what becomes of criteria

A compiler leaves one record for each criterion that it gets done with, in order, on the logger for
what it did. The levels of the loggers decide which of the records show, and nothing else.
-/

namespace Criteria
set_option autoImplicit false

/-! ## Loggers for debugging -/

namespace LogState

/-- Records for debugging count at the logger: its level is the lowest one, or there is none. -/
def debugs (log : LogState) (logger : Text) : Bool :=
  match log.effective logger with
  | some level => level == .debug
  | none => true

theorem admits_debug (log : LogState) (logger : Text) (message : String) :
    log.admits ⟨.debug, logger, message⟩ = log.debugs logger := by
  simp only [admits, debugs]
  cases log.effective logger with
  | none => rfl
  | some level => cases level <;> rfl

end LogState

/-! ## The events of a run -/

/-- Whether the criterion compiles, to a predicate or to nothing. -/
def RawCriterion.compiles {α : Type} (compile : RawCriterion → Outcome α) (c : RawCriterion) :
    Bool :=
  (compile c).isOk

namespace Run

variable {α : Type} {compile : RawCriterion → Outcome α}

/-- What a run does with a criterion. -/
inductive Does (compile : RawCriterion → Outcome α) : RawCriterion → Event α → Prop
  | skipped {c : RawCriterion} (unknown : c.op = .known .unknown) : Does compile c (.skipped c)
  | compiled {c : RawCriterion} {p : α} (asks : c.op ≠ .known .unknown)
      (made : compile c = .ok (some p)) : Does compile c (.compiled c p)

/-- There is one event for each criterion before the first that fails, in order. -/
theorem does_events (skips : SkipsUnknown compile) (cs : List RawCriterion) :
    List.Forall₂ (Does compile) (cs.takeWhile (·.compiles compile)) (ofList compile cs).events := by
  induction cs with
  | nil => exact .nil
  | cons c cs ih =>
    rw [ofList, List.takeWhile_cons, RawCriterion.compiles]
    cases made : compile c with
    | error e => exact .nil
    | ok predicate? =>
      cases predicate? with
      | none =>
        have unknown := RawCriterion.asks_eq_false_iff.mp ((skips c).mp made)
        exact .cons (.skipped unknown) ih
      | some p =>
        have asks : c.op ≠ .known .unknown := by
          intro unknown
          have none := (skips c).mpr (RawCriterion.asks_eq_false_iff.mpr unknown)
          cases made.symm.trans none
        exact .cons (.compiled asks made) ih

end Run

/-! ## The records of a compiler -/

/-- The record of what a compiler for the store did with a criterion, where `shown` is what the
criterion compiles to. It names the compiler and, apart from criteria that ask nothing, stands on
the logger of the store. -/
inductive Backend.Notes (backend : Backend) (shown : RawCriterion → Outcome String) :
    RawCriterion → Record → Prop
  | skipped {c : RawCriterion} (unknown : c.op = .known .unknown) :
      Notes backend shown c ⟨.debug, commonLogger, "[" ++ backend.compilerName ++
        "] Skipping criterion with unknown operator: " ++ c.display⟩
  | compiled {c : RawCriterion} {text : String} (asks : c.op ≠ .known .unknown)
      (made : shown c = .ok (some text)) :
      Notes backend shown c ⟨.debug, backend.logger, "[" ++ backend.compilerName ++
        "] Compiled criterion " ++ c.display ++ " -> " ++ text⟩

theorem notes_record {α : Type} {compile : RawCriterion → Outcome α} (backend : Backend)
    (display : α → String) {c : RawCriterion} {event : Event α} (does : Run.Does compile c event) :
    backend.Notes (fun c => (compile c).map (Option.map display)) c
      (event.record backend display) := by
  cases does with
  | skipped unknown => exact .skipped unknown
  | compiled asks made => exact .compiled asks (by rw [made]; rfl)

/-- Each event of a run leaves its record. -/
theorem notes_events {α : Type} {compile : RawCriterion → Outcome α} (skips : SkipsUnknown compile)
    (backend : Backend) (display : α → String) (cs : List RawCriterion) :
    List.Forall₂ (backend.Notes fun c => (compile c).map (Option.map display))
      (cs.takeWhile (·.compiles fun c => (compile c).map (Option.map display)))
      ((Run.ofList compile cs).events.map (Event.record backend display)) := by
  simp only [RawCriterion.compiles, isOk_map]
  rw [List.forall₂_map_right_iff]
  exact (Run.does_events skips cs).imp fun _ _ => notes_record backend display

namespace Compiler

variable {E : Type}

/-- What criteria compile to, without taking note of anything. -/
def conjoin (schema : Schema E) (compiler : Compiler E) (cs : List RawCriterion) :
    Except CompileError (Query E) :=
  match compiler with
  | .document s =>
    (cs.mapM (m := Except CompileError) (Document.compile s)).map
      fun os => .filters (.ofList os.reduceOption)
  | .relational root s =>
    (cs.mapM (m := Except CompileError) (Relational.compile schema root s .nested)).map
      fun os => .clauses (.ofList os.reduceOption)

variable {schema : Schema E} (layout : schema.Layout) (compiler : Compiler E)

/-- What a criterion compiles to, in a message. -/
def shown (c : RawCriterion) : Outcome String :=
  match compiler with
  | .document s => (Document.compile s c).map (Option.map fun f => f.document.display)
  | .relational root s => (Relational.compile schema root s .nested c).map
      (Option.map fun clause => (Conjunction.single clause).statementDisplay layout)

/-- The query of a compiler does not depend on its records. -/
theorem run_fst (cs : List RawCriterion) :
    (compiler.run layout cs).1 = compiler.conjoin schema cs := by
  cases compiler with
  | document s =>
    simp only [run, conjoin, Run.outcome_eq_mapM]
    cases cs.mapM (m := Except CompileError) (Document.compile s) <;> rfl
  | relational root s =>
    simp only [run, conjoin, Run.outcome_eq_mapM]
    cases cs.mapM (m := Except CompileError) (Relational.compile schema root s .nested) <;> rfl

/-- A compiler leaves one record for each criterion before the first that fails, in order. -/
theorem notes_run (cs : List RawCriterion) :
    List.Forall₂ (compiler.backend.Notes (compiler.shown layout))
      (cs.takeWhile (·.compiles (compiler.shown layout))) (compiler.run layout cs).2 := by
  cases compiler with
  | document s => exact notes_events (Document.skipsUnknown s) .document _ cs
  | relational root s =>
    exact notes_events (Relational.skipsUnknown schema root s .nested) .relational _ cs

end Compiler

/-! ## What a session shows -/

theorem inLibrary_commonLogger : (LogState.lineage commonLogger).contains libraryLogger = true := by
  decide

theorem inLibrary_logger (backend : Backend) :
    (LogState.lineage backend.logger).contains libraryLogger = true := by
  cases backend <;> decide

namespace Session

variable {E : Type} {schema : Schema E} (layout : schema.Layout) (s : Session E)

theorem shows_of_notes {backend : Backend} {shown : RawCriterion → Outcome String}
    {c : RawCriterion} {r : Record} (notes : backend.Notes shown c r) :
    s.shows r = s.log.debugs r.logger := by
  cases notes with
  | skipped => rw [shows, LogState.admits_debug, inLibrary_commonLogger, Bool.and_true]
  | compiled => rw [shows, LogState.admits_debug, inLibrary_logger, Bool.and_true]

theorem shown_of_notes {backend : Backend} {shown : RawCriterion → Outcome String}
    {cs : List RawCriterion} {records : List Record}
    (notes : List.Forall₂ (backend.Notes shown) cs records) :
    s.shown records = records.filter fun r => s.log.debugs r.logger := by
  induction notes with
  | nil => rfl
  | cons head _ ih =>
    rw [Session.shown] at ih ⊢
    rw [List.filter_cons, List.filter_cons, s.shows_of_notes head, ih]

theorem filter_debugs_of_notes {backend : Backend} {shown : RawCriterion → Outcome String}
    {cs : List RawCriterion} {records : List Record}
    (notes : List.Forall₂ (backend.Notes shown) cs records)
    (common : s.log.debugs commonLogger = true) (own : s.log.debugs backend.logger = true) :
    (records.filter fun r => s.log.debugs r.logger) = records := by
  induction notes with
  | nil => rfl
  | cons head _ ih =>
    rw [List.filter_cons_of_pos, ih]
    cases head with
    | skipped => exact common
    | compiled => exact own

theorem step_compile {id : Text} {compiler : Compiler E}
    (kept : s.compilers.lookup id = some compiler) (cs : List RawCriterion) :
    s.step layout (.compile id (.ok cs)) =
      s.answer (.ofResult (compiler.run layout cs).1) (compiler.run layout cs).2 := by
  simp only [step, compile, kept]
  split <;> simp [*, Reply.ofResult]

/-- **Logging loses no event and changes no result.** Whatever the levels of the loggers are, a
compiler answers with what the criteria compile to, or with the error of the first that fails. Of
one record for each criterion before that one, in order, a session shows those whose logger is for
debugging: all of them if both loggers are. A filter can always be written into its record. -/
theorem logged_compile {id : Text} {compiler : Compiler E}
    (kept : s.compilers.lookup id = some compiler) (cs : List RawCriterion) :
    let step := s.step layout (.compile id (.ok cs))
    let done := cs.takeWhile (·.compiles (compiler.shown layout))
    (step.session = s ∧ step.reply = .ofResult (compiler.conjoin schema cs)) ∧
    (∃ records, List.Forall₂ (compiler.backend.Notes (compiler.shown layout)) done records ∧
      step.records = records.filter (fun r => s.log.debugs r.logger) ∧
      (s.log.debugs commonLogger = true → s.log.debugs compiler.backend.logger = true →
        step.records = records)) ∧
    ∀ separators, compiler = .document separators →
      ∀ c f, Document.compile separators c = .ok (some f) → f.document.Renders := by
  intro step done
  have stepped :
      step = s.answer (.ofResult (compiler.run layout cs).1) (compiler.run layout cs).2 :=
    s.step_compile layout kept cs
  have notes := compiler.notes_run layout cs
  have shows : step.records = (compiler.run layout cs).2.filter fun r => s.log.debugs r.logger := by
    rw [stepped]
    exact s.shown_of_notes notes
  refine ⟨⟨by rw [stepped]; rfl, ?_⟩, ⟨_, notes, shows, ?_⟩, ?_⟩
  · rw [stepped, ← compiler.run_fst]
    rfl
  · intro common own
    rw [shows, s.filter_debugs_of_notes notes common own]
  · rintro separators rfl c f compiled
    exact Document.renders_compile compiled

/-- Of four criteria the second asks nothing and the third fails. With every logger for debugging,
there is a record for each of the first two. -/
theorem logged_compile_two :
    let id : Text := "default_mongo".toList
    let s : Session OrderBook := { log := { root := some .debug } }
    let first : RawCriterion := { key := some "size".toList, op := .known (.compare .ge) }
    let silent : RawCriterion := { op := .known .unknown }
    let blank : RawCriterion := { op := .known .presence }
    s.compilers.lookup id = some (.document {}) ∧
      (s.step OrderBook.layout (.compile id (.ok [first, silent, blank, first]))).records.length =
        2 := by
  intro id s first silent blank
  have kept : s.compilers.lookup id = some (.document {}) := rfl
  obtain ⟨-, ⟨records, notes, -, all⟩, -⟩ :=
    s.logged_compile OrderBook.layout kept [first, silent, blank, first]
  refine ⟨kept, ?_⟩
  rw [all (by decide) (by decide), ← notes.length_eq]
  rfl

end Session

end Criteria
