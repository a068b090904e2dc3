import Criteria.Proofs.Conjunction
import Criteria.Proofs.Relational.Injection
import Criteria.Proofs.Relational.Navigation
import Criteria.Proofs.Relational.Placeholders
import Criteria.Proofs.Relational.Questions
import Criteria.Relational.Orders

/-!
# Parameters of criteria

Each criterion binds one value or none. The statement of a list of criteria has exactly these values,
criterion by criterion, and each under a name of its own that a client reads in the text. There are
no values only if a criterion about a constant is false, and with it the whole statement.
-/

namespace Criteria
set_option autoImplicit false

variable {E : Type}

/-! ## What a criterion binds -/

/-- The values that a criterion binds, none or a single one. -/
inductive RawCriterion.Binds (schema : Schema E) (root : E) (s : Separators)
    (navigation : Navigation E) (c : RawCriterion) : List Value → Prop
  /-- An order is asked for the value written as a text. -/
  | order {comp : Comparison} {w : Text} (op : c.op = .known (.compare comp))
      (ordering : comp.isOrdering = true) (mapped : ¬ schema.EndsInConstant root navigation c.key)
      (written : (readValue s c.value).write = .ok w) : Binds schema root s navigation c [.ofText w]
  /-- Equality is asked for the value itself. -/
  | value {comp : Comparison} (op : c.op = .known (.compare comp))
      (equality : comp.isOrdering = false) (mapped : ¬ schema.EndsInConstant root navigation c.key)
      (bound : (readValue s c.value).literal? = none) :
      Binds schema root s navigation c [readValue s c.value]
  /-- Null and the truth values stand in the text. -/
  | literal {comp : Comparison} {l : Literal} (op : c.op = .known (.compare comp))
      (equality : comp.isOrdering = false) (mapped : ¬ schema.EndsInConstant root navigation c.key)
      (literal : (readValue s c.value).literal? = some l) : Binds schema root s navigation c []
  /-- A constant is compared before there is a statement. -/
  | constant {comp : Comparison} (op : c.op = .known (.compare comp))
      (constant : schema.EndsInConstant root navigation c.key) : Binds schema root s navigation c []
  /-- Only comparisons bind anything. -/
  | silent (op : ∀ comp, c.op ≠ .known (.compare comp)) : Binds schema root s navigation c []

namespace Question

/-- The value that a question binds. -/
def bound? : Question → Option Value
  | .present _ => none
  | .compare c v => if c.isOrdering || v.literal?.isNone then some v else none

theorem operand?_ofColumn (q : Question) (column : Column E) :
    (q.ofColumn column).operand?.map (·.2) = q.bound? := by
  cases q with
  | present expected => rfl
  | compare c v =>
    cases v with
    | scalar a => cases c <;> cases a <;> rfl
    | list items | tuple items => cases c <;> rfl

/-- A relationship is compared with null, which binds nothing. -/
theorem vacant_of_ofRelationship {q : Question} {source : E} {r : Relationship E} {clause : Clause E}
    (asked : q.ofRelationship source r = .ok clause) :
    q.bound? = none ∧ ∃ negated, clause = vacant source r negated := by
  unfold ofRelationship at asked
  split at asked
  · cases asked
    exact ⟨rfl, false, rfl⟩
  · cases asked
    exact ⟨rfl, true, rfl⟩
  all_goals cases asked

theorem operand?_vacant (source : E) (r : Relationship E) (negated : Bool) :
    (vacant source r negated).operand? = none := by
  unfold vacant
  split <;> rfl

/-- What an attribute of the mapping is asked is bound in the clause. -/
theorem operand?_ofAttribute {q : Question} {a : Attribute E} {clause : Clause E}
    (mapped : ∀ k, a ≠ .constant k) (asked : q.ofAttribute a = .ok clause) :
    clause.operand?.map (·.2) = q.bound? := by
  cases a with
  | column column =>
    cases asked
    exact q.operand?_ofColumn column
  | relationship source r =>
    obtain ⟨unbound, negated, rfl⟩ := vacant_of_ofRelationship asked
    rw [operand?_vacant, unbound]
    rfl
  | constant k => exact absurd rfl (mapped k)

end Question

section Binds

variable {schema : Schema E} {root : E} {s : Separators} {navigation : Navigation E}

theorem RawCriterion.Puts.binds {c : RawCriterion} {q : Question} (puts : c.Puts s q)
    (mapped : ¬ schema.EndsInConstant root navigation c.key) :
    c.Binds schema root s navigation q.bound?.toList := by
  cases puts with
  | presence known =>
    apply Binds.silent
    intro comp compares
    cases known.symm.trans compares
  | @compare comp v known operand =>
    cases ordering : comp.isOrdering with
    | true =>
      obtain ⟨w, written⟩ := exists_write_readValue s c.value
      rw [Question.operand, if_pos ordering, written] at operand
      cases operand
      rw [Question.bound?, ordering]
      exact .order known ordering mapped written
    | false =>
      rw [Question.operand, ordering] at operand
      cases operand
      rw [Question.bound?, ordering]
      cases literal : (readValue s c.value).literal? with
      | none => exact .value known ordering mapped literal
      | some l => exact .literal known ordering mapped literal

theorem RawCriterion.Puts.binds_constant {c : RawCriterion} {q : Question} (puts : c.Puts s q)
    (compares : ∃ comp v, q = .compare comp v)
    (constant : schema.EndsInConstant root navigation c.key) :
    c.Binds schema root s navigation [] := by
  obtain ⟨comp, v, rfl⟩ := compares
  cases puts with
  | compare known _ => exact .constant known constant

namespace Relational

theorem binds_of_compile {c : RawCriterion} {o : Option (Clause E)}
    (compiled : compile schema root s navigation c = .ok o) :
    c.Binds schema root s navigation ((o.bind Clause.operand?).map (·.2)).toList := by
  cases o with
  | none =>
    have silent := (skipsUnknown schema root s navigation c).1 compiled
    apply RawCriterion.Binds.silent
    intro comp compares
    cases (RawCriterion.asks_eq_false_iff.1 silent).symm.trans compares
  | some clause =>
    obtain ⟨q, puts, navigated⟩ := exists_puts_of_compile compiled
    obtain ⟨a, bare, steps, resolved, asked, rfl⟩ := answer_of_navigate navigated
    rw [Option.bind_some, Clause.operand?_along]
    by_cases constant : ∃ k, a = .constant k
    · obtain ⟨k, rfl⟩ := constant
      obtain ⟨compares, holds, rfl⟩ := Question.constant_of_ofAttribute asked
      exact puts.binds_constant compares ⟨k, resolved⟩
    · have mapped : ¬ schema.EndsInConstant root navigation c.key := by
        rintro ⟨k, ends⟩
        cases resolved.symm.trans ends
        exact constant ⟨k, rfl⟩
      rw [Question.operand?_ofAttribute (fun k eq => constant ⟨k, eq⟩) asked]
      exact puts.binds mapped

end Relational

end Binds

/-! ## Names in a clause -/

namespace Schema.Layout.Named

open Statement (IsName)

variable {schema : Schema E} {layout : schema.Layout} (named : layout.Named)
include named

theorem of_relationship? {entity : E} {segment : Text} {r : Relationship E}
    (found : schema.relationship? entity segment = some r) : IsName r.foreignKey :=
  named.foreignKey entity r (List.mem_of_find?_eq_some found)

theorem of_ask {key field : Text} {q : Question} {entity : E} {clause : Clause E}
    (asked : schema.ask key q entity field = .ok clause) : clause.Named := by
  unfold ask at asked
  split at asked
  · next a found =>
    unfold attribute? at found
    split at found
    · next column columnFound =>
      cases found
      cases asked
      obtain ⟨name, mem, rfl⟩ := Option.map_eq_some_iff.1 columnFound
      have isName := named.column entity name (List.mem_of_find?_eq_some mem)
      unfold Question.ofColumn
      split <;> exact isName
    · next r _ relationship =>
      cases found
      have isName := named.of_relationship? relationship
      obtain ⟨-, negated, rfl⟩ := Question.vacant_of_ofRelationship asked
      rcases r with ⟨_, _, _ | _, _⟩ <;> exact isName
    · obtain ⟨k, -, rfl⟩ := Option.map_eq_some_iff.1 found
      obtain ⟨-, holds, rfl⟩ := Question.constant_of_ofAttribute asked
      exact True.intro
  · cases asked

theorem of_askNested {key field : Text} {q : Question} {segments : List Text} {entity : E}
    {clause : Clause E} (asked : schema.askNested key q entity field segments = .ok clause) :
    clause.Named := by
  induction segments generalizing entity clause with
  | nil => exact named.of_ask asked
  | cons segment segments ih =>
    obtain ⟨r, found, rest⟩ := bind_eq_ok.1 asked
    obtain ⟨inner, inside, eq⟩ := bind_eq_ok.1 rest
    cases eq
    unfold Schema.hop at found
    split at found
    · next relationship =>
      cases found
      exact ⟨named.of_relationship? relationship, ih inside⟩
    · cases found

theorem of_compile {root : E} {s : Separators} {navigation : Navigation E} {c : RawCriterion}
    {clause : Clause E}
    (compiled : Relational.compile schema root s navigation c = .ok (some clause)) :
    clause.Named := by
  obtain ⟨q, -, navigated⟩ := Relational.exists_puts_of_compile compiled
  cases navigation with
  | nested => exact named.of_askNested navigated
  | owner find =>
    obtain ⟨owner, -, asked⟩ := bind_eq_ok.1 navigated
    exact named.of_ask asked

end Schema.Layout.Named

namespace OrderBook

open Statement (IsName)

theorem isName_table (e : OrderBook) : IsName (table e) := by
  cases e <;> decide

theorem isName_column (e : OrderBook) : ∀ name ∈ columns e, IsName name := by
  cases e <;> decide

theorem isName_foreignKey (e : OrderBook) : ∀ r ∈ relationships e, IsName r.foreignKey := by
  cases e <;> decide

theorem named (constants : OrderBook → List Constant) : (layoutWith constants).Named where
  table := isName_table
  identity _ := (by decide : IsName "id")
  column := isName_column
  foreignKey := isName_foreignKey

end OrderBook

/-! ## Lists of criteria -/

namespace Relational

/-- The values of the clauses of a list of criteria are those that the criteria bind. -/
theorem flatten_operands (os : List (Option (Clause E))) :
    (os.map fun o => ((o.bind Clause.operand?).map (·.2)).toList).flatten =
      (os.reduceOption.filterMap Clause.operand?).map (·.2) := by
  induction os with
  | nil => rfl
  | cons o os ih =>
    rw [List.map_cons, List.flatten_cons, ih]
    cases o with
    | none => rfl
    | some clause =>
      rw [List.reduceOption_cons_of_some, List.filterMap_cons, Option.bind_some]
      cases clause.operand? <;> rfl

/-- **No parameter is lost, doubled or renamed.** Each criterion of a list that is compiled about the
order book binds one value or none: the canonical text of its value if it asks for an order, and the
value itself if it asks for equality and the value is neither null nor a truth value. Only a
criterion about a constant binds nothing. The statement has exactly these values as parameters,
criterion by criterion, unless a criterion compiles to the false constant: then it has none. The names
of the parameters differ, and they are those that a client reads in the text from left to right.
There is no statement only if nothing is bound. -/
theorem fits_of_compileAll (constants : OrderBook → List Constant) (root : OrderBook)
    (s : Separators) (navigation : Navigation OrderBook) {cs : List RawCriterion}
    {clauses : Conjunction (Clause OrderBook)} :
    let schema := OrderBook.schemaWith constants
    let refuted := ∃ c ∈ cs, compile schema root s navigation c = .ok (some (.constant false))
    compileAll (compile schema root s navigation) cs = .ok clauses →
      ∃ groups, List.Forall₂ (RawCriterion.Binds schema root s navigation) cs groups ∧
        match clauses.statement? (OrderBook.layoutWith constants) with
        | none => groups.flatten = []
        | some statement => (refuted → statement.Fits []) ∧
          (¬ refuted → statement.Fits groups.flatten) := by
  intro schema refuted compiled
  obtain ⟨ps, run, rfl⟩ := map_eq_ok.1 compiled
  obtain ⟨os, outcomes, rfl⟩ := Run.outcome_eq_ok_iff.1 run
  refine ⟨_, List.forall₂_map_right_iff.2 (outcomes.imp fun _ _ => binds_of_compile), ?_⟩
  rw [flatten_operands]
  have names : ∀ clause ∈ os.reduceOption, clause.Named := by
    intro clause mem
    obtain ⟨c, one⟩ := Run.exists_of_mem outcomes mem
    exact (OrderBook.named constants).of_compile one
  have refutes : refuted ↔ .constant false ∈ os.reduceOption := Run.mem_iff outcomes
  split
  · next none =>
    match found : os.reduceOption with
    | [] => rfl
    | [_] | _ :: _ :: _ =>
      rw [found] at none
      cases none
  · next statement written =>
    rw [refutes]
    exact Conjunction.fits_statement (OrderBook.named constants) names written

/-- Three columns of one name in three tables, two of them inside queries, and between them a null
that binds nothing. -/
theorem fits_of_compileAll_ids :
    let criterion (key : String) (op : Comparison) (value : String) : RawCriterion :=
      { key := some key.toList, op := .known (.compare op), value := some value.toList }
    let cs := [criterion "customer.id" .gt "07", criterion "note" .eq "null",
      criterion "lines.id" .ne "1,a\\,b", criterion "id" .eq "7"]
    ∃ clauses statement groups,
      compileAll (compile OrderBook.schema .order {} .nested) cs = .ok clauses ∧
      clauses.statement? OrderBook.layout = some statement ∧
      List.Forall₂ (RawCriterion.Binds OrderBook.schema .order {} .nested) cs groups ∧
      statement.Fits groups.flatten ∧ statement.parameters.map (·.1) = ["id_1", "id_2", "id_3"] := by
  intro criterion cs
  obtain ⟨clauses, compiled, names⟩ : ∃ clauses,
      compileAll (compile OrderBook.schema .order {} .nested) cs = .ok clauses ∧
      (clauses.statement? OrderBook.layout).map (fun statement => statement.parameters.map (·.1)) =
        some ["id_1", "id_2", "id_3"] := ⟨_, rfl, by decide +kernel⟩
  obtain ⟨statement, written, names⟩ := Option.map_eq_some_iff.1 names
  obtain ⟨groups, binds, fits⟩ := fits_of_compileAll OrderBook.constants .order {} .nested compiled
  have written' : clauses.statement? (OrderBook.layoutWith OrderBook.constants) = some statement :=
    written
  rw [written'] at fits
  refine ⟨clauses, statement, groups, compiled, written, binds, fits.2 ?_, names⟩
  intro refuted
  have none := List.map_eq_nil_iff.1 (fits.1 refuted).values
  rw [none] at names
  cases names

/-- What is asked about the name of the table is no part of the statement, so that two criteria for
equality have one parameter. -/
theorem parameters_table_name :
    let criterion (key value : String) : RawCriterion :=
      { key := some key.toList, op := .known (.compare .eq), value := some value.toList }
    let cs := [criterion "__tablename__" "orders", criterion "status" "x"]
    (∀ c ∈ cs, (readValue {} c.value).literal? = none) ∧
      ∃ clauses statement,
        compileAll (compile OrderBook.schema .order {} .nested) cs = .ok clauses ∧
        clauses.statement? OrderBook.layout = some statement ∧
        statement.text = "orders.status = :status_1" ∧
        statement.parameters = [("status_1", .ofString "x")] := by
  intro criterion cs
  refine ⟨?_, ?_⟩
  · intro c mem
    rcases List.mem_pair.1 mem with rfl | rfl <;> decide +kernel
  · exact ⟨_, _, rfl, rfl, by decide +kernel, rfl⟩

end Relational

end Criteria
