import Criteria.Document.Compile
import Criteria.Proofs.Path
import Criteria.Proofs.Relational.Endings

/-!
# The criterion that a fault names

A fault gives the key of the criterion that it is about. Both compilers give the whole key, wherever
they find the fault. Only a caller who finds the owner of an attribute by following relationships
gives less: what is known there are the relationships, so the last segment of the key is missing.
-/

namespace Criteria
set_option autoImplicit false

variable {E : Type}

/-- The fault of an outcome, if it is an error that is one. -/
def Outcome.fault? {α : Type} : Outcome α → Option Fault
  | .ok _ => none
  | .error e => e.fault?

/-- The key among the details of a fault. -/
def Fault.key? (f : Fault) : Option Value := f.details.lookup "key"

/-- The fault gives the whole key of the criterion. -/
def Fault.Names (f : Fault) (c : RawCriterion) : Prop :=
  f.key? = some (CompileError.keyValue c.key)

/-! ## Errors about a key -/

namespace CompileError

/-- The error gives this key, if it is a fault. -/
def About (e : CompileError) (key : Option Text) : Prop :=
  ∀ f, e.fault? = some f → f.key? = some (keyValue key)

/-- An error that is no fault has no key to give. -/
theorem about_of_noFault {e : CompileError} (noFault : e.fault? = none) (key : Option Text) :
    e.About key := by
  intro f fault
  cases noFault.symm.trans fault

theorem about_unsupported (backend : Backend) (op : Scalar) (key : Option Text) :
    (unsupported backend op key).About key := by
  unfold unsupported
  split
  · rintro f ⟨⟩
    rfl
  · exact about_of_noFault rfl key

theorem about_fieldRequired (op : Operator) (key : Option Text) :
    (fieldRequired op key).About key := by
  rintro f ⟨⟩
  rfl

theorem about_notRelationship (entity : String) (segment key : Text) :
    (notRelationship entity segment key).About (some key) := by
  rintro f ⟨⟩
  rfl

theorem about_noAttribute (entity : String) (field key : Text) :
    (noAttribute entity field key).About (some key) := by
  rintro f ⟨⟩
  rfl

end CompileError

theorem Outcome.names_of_about {α : Type} {o : Outcome α} {c : RawCriterion}
    (about : ∀ e, o = .error e → e.About c.key) (f : Fault) (fault : o.fault? = some f) :
    f.Names c := by
  cases o with
  | ok a => cases fault
  | error e => exact about e rfl f fault

/-! ## The document store -/

namespace Document

theorem about_requireKey {op : Operator} {key : Option Text} {e : CompileError}
    (failed : requireKey op key = .error e) : e.About key := by
  cases key with
  | none =>
    cases failed
    exact CompileError.about_of_noFault rfl none
  | some key =>
    rw [requireKey] at failed
    split at failed
    · cases failed
      exact CompileError.about_fieldRequired op (some key)
    · cases failed

theorem fault?_of_knownType {ty : Option RawValueType} {e : CompileError}
    (failed : knownType ty = .error e) : e.fault? = none := by
  match ty with
  | none | some (.known _) => cases failed
  | some (.foreign _) =>
    cases failed
    rfl

/-- Every error is about the key of its criterion. -/
theorem about_compile (s : Separators) (c : RawCriterion) (e : CompileError)
    (failed : compile s c = .error e) : e.About c.key := by
  cases op : c.op with
  | foreign x =>
    rw [compile, op] at failed
    cases failed
    exact CompileError.about_unsupported .document _ c.key
  | known o =>
    cases o with
    | unknown =>
      rw [compile, op] at failed
      cases failed
    | presence =>
      rw [compile, op] at failed
      rcases bind_eq_error.1 (map_eq_error.1 failed) with blank | ⟨key, -, found⟩
      · exact about_requireKey blank
      · cases found
    | compare comp =>
      rw [compile, op] at failed
      rcases bind_eq_error.1 (map_eq_error.1 failed) with blank | ⟨key, -, typed⟩
      · exact about_requireKey blank
      · rcases bind_eq_error.1 typed with foreign | ⟨ty, -, found⟩
        · exact CompileError.about_of_noFault (fault?_of_knownType foreign) c.key
        · cases found

end Document

/-! ## The relational store -/

theorem Question.fault?_of_ofAttribute {q : Question} {a : Attribute E} {e : CompileError}
    (failed : q.ofAttribute a = .error e) : e.fault? = none := by
  cases a with
  | column column => cases failed
  | relationship source r =>
    rw [ofAttribute] at failed
    unfold ofRelationship at failed
    split at failed <;> cases failed <;> rfl
  | constant k =>
    rw [ofAttribute] at failed
    unfold ofConstant at failed
    split at failed
    · cases failed
      rfl
    · split at failed <;> cases failed
      rfl

theorem Schema.about_ask {schema : Schema E} {key : Text} {q : Question} {entity : E} {field : Text}
    {e : CompileError} (failed : schema.ask key q entity field = .error e) :
    e.About (some key) := by
  rw [ask] at failed
  split at failed
  · exact CompileError.about_of_noFault (Question.fault?_of_ofAttribute failed) (some key)
  · cases failed
    exact CompileError.about_noAttribute _ field key

/-- The criterion puts its question to a path that strays from the relationships. -/
def RawCriterion.Strays (schema : Schema E) (root : E) (c : RawCriterion) : Prop :=
  (∃ op ≠ .unknown, c.op = .known op) ∧ (Path.ofKey c.key).field ≠ [] ∧
    schema.Strays root (Path.ofKey c.key).hops

namespace Relational

variable {schema : Schema E} {root : E} {s : Separators} {c : RawCriterion}

theorem exists_key_of_field (field : (Path.ofKey c.key).field ≠ []) :
    ∃ key, c.key = some key := by
  cases whole : c.key with
  | none =>
    rw [whole] at field
    exact absurd rfl field
  | some key => exact ⟨key, rfl⟩

/-- Nested conditions are about the whole key, whether the path strays or misses. -/
theorem about_navigate_nested {key : Text} {path : Path} {q : Question} {e : CompileError}
    (failed : navigate schema root .nested key path q = .error e) : e.About (some key) := by
  rw [navigate] at failed
  rcases schema.exists_trail_or_error root path.hops with
    ⟨steps, owner, trail⟩ | ⟨name, segment, fails⟩
  · rw [trail.askNested_eq] at failed
    exact Schema.about_ask (map_eq_error.1 failed)
  · rw [(fails key).2] at failed
    cases failed
    exact CompileError.about_notRelationship name segment key

/-- At the end of a trail, the caller's owner is asked for the attribute under the whole key. -/
theorem about_navigate_owner {key : Text} {path : Path} {q : Question} {e : CompileError}
    (follows : ¬ schema.Strays root path.hops)
    (failed : navigate schema root (.owner (schema.walk root)) key path q = .error e) :
    e.About (some key) := by
  rcases schema.trail_or_strays root path.hops with ⟨steps, owner, trail⟩ | strays
  · rcases bind_eq_error.1 failed with lost | ⟨found, -, asked⟩
    · rw [Schema.walk, trail.walkFrom_eq] at lost
      cases lost
    · exact Schema.about_ask asked
  · exact absurd strays follows

/-- Off the trail, the caller knows the relationships of the path and nothing else of the key. -/
theorem navigate_owner_of_strays (key : Text) {path : Path} (q : Question)
    (strays : schema.Strays root path.hops) :
    ∃ name segment, navigate schema root (.owner (schema.walk root)) key path q =
      .error (.notRelationship name segment (Path.join path.hops)) := by
  rcases schema.exists_trail_or_error root path.hops with
    ⟨steps, owner, trail⟩ | ⟨name, segment, fails⟩
  · obtain ⟨e, lost⟩ := strays.walkFrom_eq key
    cases (trail.walkFrom_eq key).symm.trans lost
  · refine ⟨name, segment, ?_⟩
    show (schema.walkFrom _ root path.hops).bind _ = _
    rw [(fails _).1]
    rfl

/-- A way to navigate whose errors are about the whole key makes all errors so. -/
theorem about_compile {navigation : Navigation E}
    (navigated : (Path.ofKey c.key).field ≠ [] → (∃ op ≠ .unknown, c.op = .known op) →
      ∀ key q e, navigate schema root navigation key (Path.ofKey c.key) q = .error e →
        e.About (some key))
    (e : CompileError) (failed : compile schema root s navigation c = .error e) :
    e.About c.key := by
  cases known : c.op with
  | foreign x =>
    rw [compile, known] at failed
    cases failed
    exact CompileError.about_unsupported .relational _ c.key
  | known op =>
    by_cases unknown : op = .unknown
    · rw [compile, known, unknown] at failed
      cases failed
    by_cases empty : (Path.ofKey c.key).field = []
    · rw [compile_of_empty known unknown empty] at failed
      cases failed
      exact CompileError.about_fieldRequired op c.key
    · obtain ⟨key, whole⟩ := exists_key_of_field empty
      obtain ⟨q, puts⟩ := RawCriterion.exists_puts s known unknown
      rw [compile_of_puts puts empty, whole] at failed
      rw [whole]
      rw [whole] at navigated empty
      exact navigated empty ⟨op, unknown, known⟩ key q e (map_eq_error.1 failed)

/-- A criterion that strays gives its key up to the last dot. -/
theorem exists_fault_of_strays (s : Separators) (strays : c.Strays schema root) :
    ∃ f start, (compile schema root s (.owner (schema.walk root)) c).fault? = some f ∧
      f.key? = some (.ofText start) ∧
      c.key = some (start ++ '.' :: (Path.ofKey c.key).field) := by
  obtain ⟨⟨op, asks, known⟩, field, lost⟩ := strays
  obtain ⟨q, puts⟩ := RawCriterion.exists_puts s known asks
  obtain ⟨key, whole⟩ := exists_key_of_field field
  have hops : (Path.ofKey c.key).hops ≠ [] := by
    obtain ⟨before, segment, after, _, _, eq, -⟩ := lost
    rw [eq]
    exact List.append_ne_nil_of_right_ne_nil _ (List.cons_ne_nil _ _)
  obtain ⟨name, segment, failed⟩ := navigate_owner_of_strays (c.key.getD []) q lost
  rw [compile_of_puts puts field, failed]
  refine ⟨_, Path.join (Path.ofKey c.key).hops, rfl, rfl, ?_⟩
  rw [whole] at hops ⊢
  exact congrArg some (Path.eq_join_hops hops)

end Relational

/-- **A fault names its criterion, unless a caller strays.** Every fault of the document store, and
every fault of the relational store with nested conditions, gives the whole key of its criterion. If
the caller finds the owner by following the relationships of the path, a fault does so exactly if
the path does not stray from them. If it does, there is a fault, and it gives the key up to the last
dot. -/
theorem names_iff_not_strays (schema : Schema E) (root : E) (s : Separators) (c : RawCriterion) :
    let walked := Relational.compile schema root s (.owner (schema.walk root)) c
    (∀ f, (Document.compile s c).fault? = some f → f.Names c) ∧
    (∀ f, (Relational.compile schema root s .nested c).fault? = some f → f.Names c) ∧
    (∀ f, walked.fault? = some f → (f.Names c ↔ ¬ c.Strays schema root)) ∧
    (c.Strays schema root → ∃ f start, walked.fault? = some f ∧ f.key? = some (.ofText start) ∧
      c.key = some (start ++ '.' :: (Path.ofKey c.key).field)) := by
  refine ⟨?_, ?_, ?_, Relational.exists_fault_of_strays s⟩
  · exact Outcome.names_of_about (Document.about_compile s c)
  · apply Outcome.names_of_about
    exact Relational.about_compile fun _ _ _ _ _ => Relational.about_navigate_nested
  · intro f fault
    constructor
    · intro names strays
      obtain ⟨g, start, fault', start_key, whole⟩ := Relational.exists_fault_of_strays s strays
      cases fault.symm.trans fault'
      rw [Fault.Names, start_key, whole] at names
      injection names with same
      simp [CompileError.keyValue, Value.ofText] at same
    · intro follows
      refine Outcome.names_of_about ?_ f fault
      exact Relational.about_compile fun field asks key q e =>
        Relational.about_navigate_owner fun lost => follows ⟨asks, field, lost⟩

/-- A caller who follows the customer of an order finds no `nmae` there, and the fault gives the
whole key. -/
theorem names_iff_not_strays_customer :
    let c : RawCriterion := { key := some "customer.nmae".toList, op := .known (.compare .eq) }
    let walk := OrderBook.schema.walk .order
    ∃ f, (Relational.compile OrderBook.schema .order {} (.owner walk) c).fault? = some f ∧
      ¬ c.Strays OrderBook.schema .order ∧ f.Names c := by
  intro c walk
  obtain ⟨-, -, names, -⟩ := names_iff_not_strays OrderBook.schema .order {} c
  have follows : ¬ c.Strays OrderBook.schema .order := by
    rintro ⟨-, -, lost⟩
    obtain ⟨e, failed⟩ := lost.walkFrom_eq []
    have found : OrderBook.schema.walkFrom [] .order (Path.ofKey c.key).hops = .ok .customer := rfl
    cases found.symm.trans failed
  exact ⟨_, rfl, follows, (names _ rfl).mpr follows⟩

/-- A name is no relationship. A caller who finds that out reports the key up to the name, which is
that of another criterion, while nested conditions report the whole key. -/
theorem walked_fault_name :
    let c : RawCriterion := {
      key := some "customer.name.x".toList
      op := .known (.compare .eq)
      value := some "%".toList }
    let walk := OrderBook.schema.walk .order
    ∃ walked nested,
      (Relational.compile OrderBook.schema .order {} (.owner walk) c).fault? = some walked ∧
      (Relational.compile OrderBook.schema .order {} .nested c).fault? = some nested ∧
      walked.key? = some (.ofText "customer.name".toList) ∧ ¬ walked.Names c ∧ nested.Names c := by
  refine ⟨_, _, rfl, rfl, rfl, ?_, rfl⟩
  intro names
  injection names with same
  have differ : "customer.name".toList ≠ "customer.name.x".toList := by decide
  injection same with same
  injection same with same
  exact differ same

end Criteria
