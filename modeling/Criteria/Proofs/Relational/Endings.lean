import Criteria.Proofs.Path
import Criteria.Proofs.Relational.Navigation
import Criteria.Proofs.Relational.Questions
import Criteria.Relational.Orders

/-!
# How compiling for a relational store ends

How compiling a checked criterion ends is decided by its operator and by where its path leads. Its
value decides nothing, since whatever a text means can be compared and also written. Only a
relationship asks for more: it has no order and no presence, and is compared with null alone.
-/

namespace Criteria
set_option autoImplicit false

variable {E : Type}

namespace Schema

variable {schema : Schema E} {root : E} {path : Path}

/-! ## Where a path leads -/

/-- Some segment names no relationship of the entity reached so far. -/
def Strays (schema : Schema E) (entity : E) (segments : List Text) : Prop :=
  ∃ before segment after steps reached, segments = before ++ segment :: after ∧
    schema.Trail entity before steps reached ∧ schema.relationship? reached segment = none

/-- The relationships of the path lead to an entity that has the attribute at its end. -/
def Leads (schema : Schema E) (root : E) (path : Path) (a : Attribute E) : Prop :=
  ∃ steps owner, schema.Trail root path.hops steps owner ∧
    schema.attribute? owner path.field = some a

/-- The relationships of the path lead to an entity that has no attribute of its last name. -/
def Misses (schema : Schema E) (root : E) (path : Path) : Prop :=
  ∃ steps owner, schema.Trail root path.hops steps owner ∧
    schema.attribute? owner path.field = none

theorem Strays.walkFrom_eq {entity : E} {segments : List Text}
    (strays : schema.Strays entity segments) (key : Text) :
    ∃ e, schema.walkFrom key entity segments = .error e := by
  obtain ⟨before, segment, after, steps, reached, rfl, trail, lost⟩ := strays
  induction trail with
  | here =>
    rw [List.nil_append, walkFrom, Schema.hop, lost]
    exact ⟨_, rfl⟩
  | hop found _ ih =>
    rw [List.cons_append, walkFrom, Schema.hop, found]
    exact ih lost

theorem trail_or_strays (schema : Schema E) (entity : E) (segments : List Text) :
    (∃ steps owner, schema.Trail entity segments steps owner) ∨ schema.Strays entity segments := by
  induction segments generalizing entity with
  | nil => exact Or.inl ⟨[], entity, .here⟩
  | cons segment segments ih =>
    cases found : schema.relationship? entity segment with
    | none => exact Or.inr ⟨[], segment, segments, [], entity, rfl, .here, found⟩
    | some r =>
      rcases ih r.target with ⟨steps, owner, trail⟩ |
        ⟨before, last, after, steps, reached, rfl, trail, lost⟩
      · exact Or.inl ⟨_, owner, .hop found trail⟩
      · exact Or.inr ⟨segment :: before, last, after, _, reached, rfl, .hop found trail, lost⟩

theorem resolve?_eq_some_iff {a : Attribute E} :
    schema.resolve? root .nested path = some a ↔ schema.Leads root path a := by
  constructor
  · intro resolved
    rcases schema.trail_or_strays root path.hops with ⟨steps, owner, trail⟩ | strays
    · rw [resolve?, owner?, walk, trail.walkFrom_eq] at resolved
      exact ⟨steps, owner, trail, resolved⟩
    · obtain ⟨e, fails⟩ := strays.walkFrom_eq (Path.join path.hops)
      rw [resolve?, owner?, walk, fails] at resolved
      cases resolved
  · rintro ⟨steps, owner, trail, found⟩
    rw [resolve?, owner?, walk, trail.walkFrom_eq]
    exact found

theorem resolve?_eq_none_iff :
    schema.resolve? root .nested path = none ↔
      schema.Strays root path.hops ∨ schema.Misses root path := by
  constructor
  · intro resolved
    rcases schema.trail_or_strays root path.hops with ⟨steps, owner, trail⟩ | strays
    · rw [resolve?, owner?, walk, trail.walkFrom_eq] at resolved
      exact Or.inr ⟨steps, owner, trail, resolved⟩
    · exact Or.inl strays
  · rintro (strays | ⟨steps, owner, trail, missing⟩)
    · obtain ⟨e, fails⟩ := strays.walkFrom_eq (Path.join path.hops)
      rw [resolve?, owner?, walk, fails]
      rfl
    · rw [resolve?, owner?, walk, trail.walkFrom_eq]
      exact missing

end Schema

/-! ## What a relationship is asked -/

/-- Whether the operator asks for an order or for presence, which only columns have. -/
def Operator.needsColumn : Operator → Bool
  | .compare c => c.isOrdering
  | .presence => true
  | .unknown => false

theorem Operator.exists_compare {op : Operator} (asks : op ≠ .unknown)
    (needs : op.needsColumn = false) : ∃ comp, op = .compare comp ∧ comp.isOrdering = false := by
  cases op with
  | compare comp => exact ⟨comp, rfl, needs⟩
  | presence => cases needs
  | unknown => exact absurd rfl asks

namespace RawCriterion

variable {s : Separators} {c : RawCriterion} {op : Operator} {q : Question}

/-- A relationship has neither an order nor a presence. -/
theorem Puts.ending_of_needsColumn (puts : c.Puts s q) (known : c.op = .known op)
    (needs : op.needsColumn = true) (source : E) (r : Relationship E) :
    Outcome.ending ((q.ofAttribute (.relationship source r)).map some) =
      .failure .relationshipOperand := by
  cases puts with
  | presence => rfl
  | @compare comp v compares =>
    cases known.symm.trans compares
    cases comp with
    | eq | ne => cases needs
    | gt | ge | lt | le => rfl

/-- A relationship can be compared with null. -/
theorem Puts.ending_of_null (puts : c.Puts s q) (known : c.op = .known op)
    (needs : op.needsColumn = false) (null : readValue s c.value = .scalar .null) (source : E)
    (r : Relationship E) :
    Outcome.ending ((q.ofAttribute (.relationship source r)).map some) = .predicate := by
  cases puts with
  | presence asks =>
    cases known.symm.trans asks
    cases needs
  | @compare comp v compares operand =>
    cases known.symm.trans compares
    have ordering : comp.isOrdering = false := needs
    rw [Question.operand, ordering, null] at operand
    cases operand
    cases comp with
    | eq | ne => rfl
    | gt | ge | lt | le => cases ordering

end RawCriterion

namespace Relational

variable {schema : Schema E} {root : E} {s : Separators} {c : Criterion}

/-! ## Paths -/

theorem field_of_blank {key : Text} (blank : isBlankText key = true) :
    (Path.ofKey (some key)).field = [] := by
  rw [Path.ofKey_of_blank blank]

section Navigate

variable (key : Text) (q : Question) {path : Path}

theorem ending_of_resolve {a : Attribute E} (resolved : schema.resolve? root .nested path = some a) :
    Outcome.ending ((navigate schema root .nested key path q).map some) =
      Outcome.ending ((q.ofAttribute a).map some) := by
  obtain ⟨steps, owner, trail, found⟩ := Schema.resolve?_eq_some_iff.1 resolved
  rw [navigate, trail.askNested_eq, Schema.ask, found]
  show Outcome.ending (((q.ofAttribute a).map (Clause.along steps)).map some) = _
  cases q.ofAttribute a <;> rfl

theorem ending_of_unresolved (lost : schema.resolve? root .nested path = none) :
    Outcome.ending ((navigate schema root .nested key path q).map some) =
      .fault .invalidField := by
  rw [navigate]
  rcases Schema.resolve?_eq_none_iff.1 lost with strays | ⟨steps, owner, trail, missing⟩
  · rcases schema.exists_trail_or_error root path.hops with
      ⟨steps, owner, trail⟩ | ⟨name, segment, fails⟩
    · obtain ⟨e, error⟩ := strays.walkFrom_eq key
      cases (trail.walkFrom_eq key).symm.trans error
    · rw [(fails key).2]
      rfl
  · rw [trail.askNested_eq, Schema.ask, missing]
    rfl

end Navigate

/-! ## Criteria -/

theorem ending_of_unknown (unknown : c.op = .unknown) :
    (compile schema root s .nested c.raw).ending = .skipped := by
  simp only [compile, Criterion.raw, unknown]
  rfl

section Asking

variable (asks : c.op ≠ .unknown)
include asks

theorem ending_of_empty (empty : (Path.ofKey (some c.key)).field = []) :
    (compile schema root s .nested c.raw).ending = .fault .invalidField :=
  congrArg Outcome.ending (compile_of_empty rfl asks empty)

section Field

variable (field : (Path.ofKey (some c.key)).field ≠ [])
include field

theorem ending_of_lost (lost : schema.resolve? root .nested (Path.ofKey (some c.key)) = none) :
    (compile schema root s .nested c.raw).ending = .fault .invalidField := by
  obtain ⟨q, puts⟩ := RawCriterion.exists_puts s (c := c.raw) rfl asks
  rw [compile_of_puts puts field]
  exact ending_of_unresolved c.key q lost

/-- A criterion ends as the attribute answers its question. -/
theorem exists_ending {a : Attribute E}
    (resolved : schema.resolve? root .nested (Path.ofKey (some c.key)) = some a) :
    ∃ q, c.raw.Puts s q ∧ (compile schema root s .nested c.raw).ending =
      Outcome.ending ((q.ofAttribute a).map some) := by
  obtain ⟨q, puts⟩ := RawCriterion.exists_puts s (c := c.raw) rfl asks
  rw [compile_of_puts puts field]
  exact ⟨q, puts, ending_of_resolve c.key q resolved⟩

theorem ending_of_column {column : Column E}
    (resolved : schema.resolve? root .nested (Path.ofKey (some c.key)) = some (.column column)) :
    (compile schema root s .nested c.raw).ending = .predicate := by
  obtain ⟨q, -, ended⟩ := exists_ending asks field resolved
  exact ended

section Relationship

variable {source : E} {r : Relationship E}
  (resolved : schema.resolve? root .nested (Path.ofKey (some c.key)) = some (.relationship source r))
include resolved

theorem ending_of_needsColumn (needs : c.op.needsColumn = true) :
    (compile schema root s .nested c.raw).ending = .failure .relationshipOperand := by
  obtain ⟨q, puts, ended⟩ := exists_ending asks field resolved
  exact ended.trans (puts.ending_of_needsColumn rfl needs source r)

theorem ending_of_null (needs : c.op.needsColumn = false)
    (null : readValue s c.value = .scalar .null) :
    (compile schema root s .nested c.raw).ending = .predicate := by
  obtain ⟨q, puts, ended⟩ := exists_ending asks field resolved
  exact ended.trans (puts.ending_of_null rfl needs null source r)

end Relationship

end Field

end Asking

/-- The criterion compares a relationship, for equality or its negation, with something else than
null. -/
def ComparesRecord (schema : Schema E) (root : E) (s : Separators) (c : Criterion) : Prop :=
  (∃ comp, c.op = .compare comp ∧ comp.isOrdering = false) ∧ readValue s c.value ≠ .scalar .null ∧
    ∃ source r, schema.Leads root (Path.ofKey (some c.key)) (.relationship source r)

/-- **Each ending has its own condition on the operator and the path of a criterion**, if the path
does not end in a constant. A criterion with the unknown operator is skipped. Any other one fails by an
invalid field if its key is blank or ends in an empty segment, or if its path strays from the
relationships or misses an attribute. It fails for asking too much of a relationship if its path
leads to one, and the operator asks for an order or for presence. In all other cases it has a clause,
whatever its value is, which can always be written. -/
theorem ending_of_path (schema : Schema E) (root : E) (s : Separators) (c : Criterion)
    (mapped : ¬ schema.EndsInConstant root .nested (some c.key))
    (settled : ¬ ComparesRecord schema root s c) :
    let path := Path.ofKey (some c.key)
    let ending := (compile schema root s .nested c.raw).ending
    let invalid := c.op ≠ .unknown ∧ (isBlankText c.key = true ∨ path.field = [] ∨
      schema.Strays root path.hops ∨ schema.Misses root path)
    let excessive := path.field ≠ [] ∧
      (∃ source r, schema.Leads root path (.relationship source r)) ∧ c.op.needsColumn = true
    (∃ w, (readValue s c.value).write = .ok w) ∧
    (ending = .skipped ↔ c.op = .unknown) ∧
    (ending = .fault .invalidField ↔ invalid) ∧
    (ending = .failure .relationshipOperand ↔ excessive) ∧
    (ending = .predicate ↔ c.op ≠ .unknown ∧ ¬ invalid ∧ ¬ excessive) := by
  intro path ending invalid excessive
  refine ⟨exists_write_readValue s c.value, ?_⟩
  by_cases unknown : c.op = .unknown
  · have ended : ending = .skipped := ending_of_unknown unknown
    simp [ended, invalid, excessive, unknown, Operator.needsColumn]
  by_cases empty : path.field = []
  · have ended : ending = .fault .invalidField := ending_of_empty unknown empty
    simp [ended, invalid, excessive, unknown, empty]
  have named : isBlankText c.key = false := by
    by_contra blank
    exact empty (field_of_blank (Bool.not_eq_false _ ▸ blank))
  simp only [invalid, excessive, ← Schema.resolve?_eq_none_iff, ← Schema.resolve?_eq_some_iff]
  cases resolved : schema.resolve? root .nested path with
  | none =>
    have ended : ending = .fault .invalidField := ending_of_lost unknown empty resolved
    simp [ended, unknown]
  | some a =>
    cases a with
    | constant k => exact absurd ⟨k, resolved⟩ mapped
    | column column =>
      have ended : ending = .predicate := ending_of_column unknown empty resolved
      simp [ended, unknown, empty, named]
    | relationship source r =>
      cases needs : c.op.needsColumn with
      | true =>
        have ended : ending = .failure .relationshipOperand :=
          ending_of_needsColumn unknown empty resolved needs
        simp [ended, unknown, empty, named]
      | false =>
        have null : readValue s c.value = .scalar .null := by
          by_contra value
          exact settled ⟨Operator.exists_compare unknown needs, value, source, r,
            Schema.resolve?_eq_some_iff.1 resolved⟩
        have ended : ending = .predicate := ending_of_null unknown empty resolved needs null
        simp [ended, unknown, empty, named]

/-- A relationship at the end of a path may be compared with null. -/
theorem ending_of_path_null :
    let c : Criterion := {
      key := "customer.address".toList
      op := .compare .ne
      value := some "NULL".toList }
    ¬ OrderBook.schema.EndsInConstant .order .nested (some c.key) ∧
      ¬ ComparesRecord OrderBook.schema .order {} c ∧
      (compile OrderBook.schema .order {} .nested c.raw).ending = .predicate := by
  intro c
  have null : readValue {} c.value = .scalar .null := by rfl
  have settled : ¬ ComparesRecord OrderBook.schema .order {} c := fun record => record.2.1 null
  have resolved : OrderBook.schema.resolve? .order .nested (Path.ofKey (some c.key)) =
      some (.relationship .customer ⟨"address", .address, .one, "address_id"⟩) := by rfl
  have mapped : ¬ OrderBook.schema.EndsInConstant .order .nested (some c.key) := by
    rintro ⟨k, constant⟩
    cases resolved.symm.trans constant
  obtain ⟨-, -, -, -, predicate⟩ := ending_of_path OrderBook.schema .order {} c mapped settled
  refine ⟨mapped, settled, predicate.2 ⟨?_, ?_, ?_⟩⟩
  · exact nofun
  · rintro ⟨-, blank | empty | lost⟩
    · cases blank
    · cases empty
    · rw [← Schema.resolve?_eq_none_iff, resolved] at lost
      cases lost
  · rintro ⟨-, -, needs⟩
    cases needs

end Relational

end Criteria
