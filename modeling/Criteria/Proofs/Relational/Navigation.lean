import Criteria.Proofs.Compilation
import Criteria.Proofs.Relational.Statement
import Criteria.Relational.Compile

/-!
# The two ways to navigate

A clause can be nested once for every relationship on the way to its attribute, or be put to the
entity at the end of the way. Both ways follow the same trail of relationships, so they give clauses
for the same criteria, and one clause is the other one nested along the trail. Whatever the way is,
it is only the attribute at its end that a criterion asks.
-/

namespace Criteria
set_option autoImplicit false

variable {E : Type}

/-- The way from an entity along relationships: each step has the entity reached so far and the
relationship that the segment names there. -/
inductive Schema.Trail (schema : Schema E) : E → List Text → List (E × Relationship E) → E → Prop
  | here {entity : E} : Trail schema entity [] [] entity
  | hop {entity owner : E} {r : Relationship E} {segment : Text} {segments : List Text}
      {steps : List (E × Relationship E)}
      (found : schema.relationship? entity segment = some r)
      (rest : Trail schema r.target segments steps owner) :
      Trail schema entity (segment :: segments) ((entity, r) :: steps) owner

/-- The clause nested once for every step, the first one outermost. -/
def Clause.along (steps : List (E × Relationship E)) (clause : Clause E) : Clause E :=
  steps.foldr (fun step condition => .related step.2.cardinality.quantifier step.1 step.2 condition)
    clause

/-- The first clause is the second one nested along the segments, with one query for each of them.
The query for a segment joins the entity reached so far to the target of the relationship that the
segment names there. It puts its condition to the one related record if the relationship leads to
one, and to some related record if it leads to many. -/
inductive Schema.Nests (schema : Schema E) : E → List Text → Clause E → Clause E → Prop
  | here {entity : E} {bare : Clause E} : Nests schema entity [] bare bare
  | has {entity : E} {r : Relationship E} {segment : Text} {segments : List Text}
      {nested bare : Clause E} (found : schema.relationship? entity segment = some r)
      (one : r.cardinality = .one) (rest : Nests schema r.target segments nested bare) :
      Nests schema entity (segment :: segments) (.related .has entity r nested) bare
  | any {entity : E} {r : Relationship E} {segment : Text} {segments : List Text}
      {nested bare : Clause E} (found : schema.relationship? entity segment = some r)
      (many : r.cardinality = .many) (rest : Nests schema r.target segments nested bare) :
      Nests schema entity (segment :: segments) (.related .any entity r nested) bare

namespace Schema

variable {schema : Schema E}

/-- The entity that is asked for the last segment of a path. -/
def owner? (schema : Schema E) (root : E) : Navigation E → List Text → Option E
  | .nested, hops => (schema.walk root hops).toOption
  | .owner find, hops => (find hops).toOption

/-- The attribute at the end of a path. -/
def resolve? (schema : Schema E) (root : E) (navigation : Navigation E) (path : Path) :
    Option (Attribute E) :=
  (schema.owner? root navigation path.hops).bind fun owner => schema.attribute? owner path.field

/-- The path of a key ends in a constant, of which the mapping knows nothing. -/
def EndsInConstant (schema : Schema E) (root : E) (navigation : Navigation E)
    (key : Option Text) : Prop :=
  ∃ k, schema.resolve? root navigation (Path.ofKey key) = some (.constant k)

/-! ## Following a trail -/

theorem Trail.walkFrom_eq {entity owner : E} {segments : List Text}
    {steps : List (E × Relationship E)} (trail : schema.Trail entity segments steps owner)
    (key : Text) : schema.walkFrom key entity segments = .ok owner := by
  induction trail with
  | here => rfl
  | hop found _ ih =>
    rw [walkFrom, Schema.hop, found]
    exact ih

/-- What is asked at the end of a trail is nested along it. -/
theorem Trail.askNested_eq {entity owner : E} {segments : List Text}
    {steps : List (E × Relationship E)} (trail : schema.Trail entity segments steps owner)
    (key : Text) (q : Question) (field : Text) :
    schema.askNested key q entity field segments =
      (schema.ask key q owner field).map (Clause.along steps) := by
  induction trail with
  | @here entity =>
    rw [askNested]
    cases schema.ask key q entity field <;> rfl
  | @hop entity owner r segment segments steps found _ ih =>
    rw [askNested, Schema.hop, found]
    show (schema.askNested key q r.target field segments).bind _ = _
    rw [ih]
    cases schema.ask key q owner field <;> rfl

theorem Trail.nests {entity owner : E} {segments : List Text}
    {steps : List (E × Relationship E)} (trail : schema.Trail entity segments steps owner)
    (bare : Clause E) : schema.Nests entity segments (bare.along steps) bare := by
  induction trail with
  | here => exact .here
  | @hop entity owner r segment segments steps found _ ih =>
    show schema.Nests _ _ (.related r.cardinality.quantifier entity r (bare.along steps)) bare
    cases cardinality : r.cardinality with
    | one => exact .has found cardinality ih
    | many => exact .any found cardinality ih

/-- Either there is a trail, or both ways fail at the same segment. -/
theorem exists_trail_or_error (schema : Schema E) (entity : E) (segments : List Text) :
    (∃ steps owner, schema.Trail entity segments steps owner) ∨
      ∃ name segment, ∀ key,
        schema.walkFrom key entity segments = .error (.notRelationship name segment key) ∧
        ∀ q field, schema.askNested key q entity field segments =
          .error (.notRelationship name segment key) := by
  induction segments generalizing entity with
  | nil => exact Or.inl ⟨[], entity, .here⟩
  | cons segment segments ih =>
    cases found : schema.relationship? entity segment with
    | none =>
      refine Or.inr ⟨schema.name entity, segment, ?_⟩
      intro key
      constructor
      · rw [walkFrom, Schema.hop, found]
        rfl
      · intro q field
        rw [askNested, Schema.hop, found]
        rfl
    | some r =>
      rcases ih r.target with ⟨steps, owner, trail⟩ | ⟨name, last, fails⟩
      · exact Or.inl ⟨_, owner, .hop found trail⟩
      · refine Or.inr ⟨name, last, ?_⟩
        intro key
        obtain ⟨walked, nested⟩ := fails key
        constructor
        · rw [walkFrom, Schema.hop, found]
          exact walked
        · intro q field
          rw [askNested, Schema.hop, found]
          show (schema.askNested key q r.target field segments).bind _ = _
          rw [nested q field]
          rfl

end Schema

/-! ## Clauses along a trail -/

theorem Clause.operand?_along (steps : List (E × Relationship E)) (clause : Clause E) :
    (clause.along steps).operand? = clause.operand? := by
  induction steps with
  | nil => rfl
  | cons step steps ih => exact ih

/-- Nesting a clause leaves its parameters as they are. -/
theorem Clause.parameters_along {schema : Schema E} (layout : schema.Layout)
    (steps : List (E × Relationship E)) (clause : Clause E) :
    (clause.along steps).parameters layout = clause.parameters layout := by
  rw [parameters_eq, operand?_along, parameters_eq]

/-- Errors that are reported in the same way: as faults of one kind, or as one and the same error
that is no fault. -/
inductive CompileError.SameClass : CompileError → CompileError → Prop
  | fault {e f : CompileError} {a b : Fault} (left : e.fault? = some a) (right : f.fault? = some b)
      (kind : a.kind = b.kind) : SameClass e f
  | other {e : CompileError} (noFault : e.fault? = none) : SameClass e e

theorem CompileError.SameClass.refl (e : CompileError) : e.SameClass e := by
  cases fault : e.fault? with
  | none => exact .other fault
  | some a => exact .fault fault fault rfl

/-- How the outcomes of the two ways belong together for a path along `segments`: there is no
clause, or there are two, one of them nested along the path and both with the same bound value, or
both ways fail in the same way. -/
inductive Outcome.Agree (schema : Schema E) (root : E) (segments : List Text) :
    Outcome (Clause E) → Outcome (Clause E) → Prop
  | skipped : Agree schema root segments (.ok none) (.ok none)
  | clause {nested bare : Clause E} (nests : schema.Nests root segments nested bare)
      (operand : nested.operand? = bare.operand?)
      (parameters : ∀ layout : schema.Layout, nested.parameters layout = bare.parameters layout) :
      Agree schema root segments (.ok (some nested)) (.ok (some bare))
  | failed {e f : CompileError} (alike : e.SameClass f) :
      Agree schema root segments (.error e) (.error f)

namespace Relational

open Outcome (Agree)

theorem eq_ofKey_of_requirePath {op : Operator} {c : RawCriterion} {path : Path}
    (required : requirePath op c = .ok path) : path = Path.ofKey c.key := by
  simp only [requirePath] at required
  split at required
  · cases required
  · cases required
    rfl

/-- Every question goes to the entity at the end of the path, whose answer may be nested; or there
is no such entity, and the question does not matter. -/
theorem navigate_cases (schema : Schema E) (root : E) (navigation : Navigation E) (path : Path) :
    (∃ owner steps, schema.owner? root navigation path.hops = some owner ∧
      ∀ key q, navigate schema root navigation key path q =
        (schema.ask key q owner path.field).map (Clause.along steps)) ∨
    schema.owner? root navigation path.hops = none ∧
      ∀ key, ∃ e, ∀ q, navigate schema root navigation key path q = .error e := by
  cases navigation with
  | nested =>
    rw [Schema.owner?, Schema.walk]
    rcases schema.exists_trail_or_error root path.hops with
      ⟨steps, owner, trail⟩ | ⟨name, segment, fails⟩
    · rw [trail.walkFrom_eq]
      exact Or.inl ⟨owner, steps, rfl, fun key q => trail.askNested_eq key q path.field⟩
    · rw [(fails _).1]
      exact Or.inr ⟨rfl, fun key => ⟨_, fun q => (fails key).2 q path.field⟩⟩
  | owner find =>
    cases found : find path.hops with
    | ok owner =>
      refine Or.inl ⟨owner, [], by rw [Schema.owner?, found]; rfl, ?_⟩
      intro key q
      rw [navigate, found]
      show schema.ask key q owner path.field = _
      cases schema.ask key q owner path.field <;> rfl
    | error e =>
      refine Or.inr ⟨by rw [Schema.owner?, found]; rfl, fun key => ⟨e, fun q => ?_⟩⟩
      rw [navigate, found]
      rfl

/-- A clause for a path is the answer of the attribute at its end, nested or not. -/
theorem answer_of_navigate {schema : Schema E} {root : E} {navigation : Navigation E} {key : Text}
    {path : Path} {q : Question} {clause : Clause E}
    (navigated : navigate schema root navigation key path q = .ok clause) :
    ∃ a bare steps, schema.resolve? root navigation path = some a ∧ q.ofAttribute a = .ok bare ∧
      clause = Clause.along steps bare := by
  rcases navigate_cases schema root navigation path with ⟨owner, steps, found, asks⟩ | ⟨-, fails⟩
  · rw [asks] at navigated
    obtain ⟨bare, asked, nested⟩ := map_eq_ok.1 navigated
    unfold Schema.ask at asked
    split at asked
    · next a named =>
      refine ⟨a, bare, steps, ?_, asked, nested.symm⟩
      rw [Schema.resolve?, found]
      exact named
    · cases asked
  · obtain ⟨e, failed⟩ := fails key
    cases (failed q).symm.trans navigated

/-- The two ways agree on every question about a path. -/
theorem agree_navigate (schema : Schema E) (root : E) (key : Text) (path : Path) (q : Question) :
    Agree schema root path.hops ((navigate schema root .nested key path q).map some)
      ((navigate schema root (.owner (schema.walk root)) key path q).map some) := by
  rcases schema.exists_trail_or_error root path.hops with
    ⟨steps, owner, trail⟩ | ⟨name, segment, fails⟩
  · have nested : navigate schema root .nested key path q =
        (schema.ask key q owner path.field).map (Clause.along steps) := trail.askNested_eq key q _
    have walked : navigate schema root (.owner (schema.walk root)) key path q =
        schema.ask key q owner path.field := by
      show (schema.walkFrom _ root path.hops).bind _ = _
      rw [trail.walkFrom_eq]
      rfl
    rw [nested, walked]
    cases schema.ask key q owner path.field with
    | error e => exact .failed (.refl e)
    | ok bare =>
      exact .clause (trail.nests bare) (bare.operand?_along steps) fun layout =>
        bare.parameters_along layout steps
  · have nested : navigate schema root .nested key path q =
        .error (.notRelationship name segment key) := (fails key).2 q path.field
    have walked : navigate schema root (.owner (schema.walk root)) key path q =
        .error (.notRelationship name segment (Path.join path.hops)) := by
      show (schema.walkFrom _ root path.hops).bind _ = _
      rw [(fails _).1]
      rfl
    rw [nested, walked]
    apply Agree.failed
    exact .fault rfl rfl rfl

/-- **The two ways to navigate agree.** Nesting conditions and asking the entity at the end of the
path both skip a criterion, or both fail in the same way, or both give a clause, whatever the
attribute is. Then the first clause is the second one, nested once for every relationship of the
path, by its cardinality, and with the same parameters. -/
theorem agree_compile (schema : Schema E) (root : E) (s : Separators) (c : RawCriterion) :
    Agree schema root (Path.ofKey c.key).hops (compile schema root s .nested c)
      (compile schema root s (.owner (schema.walk root)) c) := by
  unfold compile
  split
  · exact .skipped
  · unfold presence
    cases required : requirePath .presence c with
    | error e => exact .failed (.refl e)
    | ok p =>
      cases eq_ofKey_of_requirePath required
      exact agree_navigate schema root _ _ _
  · next op _ =>
    unfold comparison
    cases required : requirePath (.compare op) c with
    | error e => exact .failed (.refl e)
    | ok p =>
      cases eq_ofKey_of_requirePath required
      cases Question.operand s op c.value with
      | error e => exact .failed (.refl e)
      | ok v => exact agree_navigate schema root _ _ _
  · exact .failed (.refl _)

end Relational

end Criteria
