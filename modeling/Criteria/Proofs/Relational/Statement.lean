import Criteria.Relational.Statement

/-!
# Placeholders of statements

The parameters of a statement come from its placeholders alone, and a clause has one placeholder at
most, however deep it is nested. The text around them comes from the clause without its bound value.
-/

namespace Criteria
set_option autoImplicit false

/-! ## Parameters -/

/-- The column and the value of a placeholder. -/
def Fragment.placeholder? : Fragment → Option (String × Value)
  | .sql _ => none
  | .placeholder column value => some (column, value)

namespace Statement

/-- The parameters for columns and their values, which stand behind placeholders of the columns in
`earlier`. -/
def number (earlier : List String) : List (String × Value) → List (String × Value)
  | [] => []
  | (column, value) :: rest =>
    (placeholderName earlier column, value) :: number (column :: earlier) rest

/-- **The parameters of a statement are its placeholders**, numbered from left to right. -/
theorem parameters_assemble (earlier : List String) (fragments : List Fragment) :
    (assemble earlier fragments).parameters =
      number earlier (fragments.filterMap Fragment.placeholder?) := by
  induction fragments generalizing earlier with
  | nil => rfl
  | cons f rest ih =>
    cases f with
    | sql text => exact ih earlier
    | placeholder column value => exact congrArg (_ :: ·) (ih (column :: earlier))

end Statement

namespace Clause

variable {E : Type} {schema : Schema E}

/-- The name of the column that a clause compares with a bound value, and that value. -/
def operand? : Clause E → Option (String × Value)
  | .bound column _ value => some (column.name, value)
  | .related _ _ _ condition => condition.operand?
  | .null .. | .truth .. | .occupied .. | .constant _ => none

theorem placeholders_enclose (clause : Clause E) (fragments : List Fragment) :
    (clause.enclose fragments).filterMap Fragment.placeholder? =
      fragments.filterMap Fragment.placeholder? := by
  unfold enclose
  split
  · rw [List.filterMap_cons_none rfl, List.filterMap_append]
    exact List.append_nil _
  · rfl

theorem placeholders_fragments (layout : schema.Layout) (nested : Bool) (clause : Clause E) :
    (clause.fragments layout nested).filterMap Fragment.placeholder? = clause.operand?.toList := by
  induction clause generalizing nested with
  | null | truth | bound | occupied | constant => rfl
  | related quantifier source hop condition ih =>
    rw [fragments, List.filterMap_cons_none rfl, List.filterMap_append, placeholders_enclose, ih]
    exact List.append_nil _

/-- The names and the values of the placeholders of a clause that stands for itself. -/
def parameters (layout : schema.Layout) (clause : Clause E) : List (String × Value) :=
  (Statement.ofFragments (clause.fragments layout false)).parameters

theorem parameters_eq (layout : schema.Layout) (clause : Clause E) :
    clause.parameters layout = Statement.number [] clause.operand?.toList := by
  rw [parameters, Statement.ofFragments, Statement.parameters_assemble, placeholders_fragments]

end Clause

/-! ## Constants in a conjunction -/

theorem Clause.constant?_eq_some_iff {E : Type} {clause : Clause E} {value : Bool} :
    clause.constant? = some value ↔ clause = .constant value := by
  cases clause <;> simp [constant?]

namespace Conjunction

variable {E : Type} {schema : Schema E} (layout : schema.Layout) {clauses : List (Clause E)}

/-- No clause is a constant. -/
def NoConstants (clauses : List (Clause E)) : Prop := ∀ clause ∈ clauses, clause.constant? = none

omit layout in
theorem essential_of_false (refuted : .constant false ∈ clauses) :
    essential clauses = [.constant false] := by
  have settled : clauses.any (·.constant? == some false) = true := by
    rw [List.any_eq_true]
    exact ⟨_, refuted, rfl⟩
  rw [essential, settled]
  rfl

omit layout in
theorem essential_of_not_false (possible : .constant false ∉ clauses) :
    essential clauses = match clauses.filter (·.constant?.isNone) with
      | [] => [.constant true]
      | rest => rest := by
  have differs {clause : Clause E} (mem : clause ∈ clauses) :
      clause.constant? ≠ some false := by
    intro constant
    exact possible (Clause.constant?_eq_some_iff.1 constant ▸ mem)
  have settled : clauses.any (·.constant? == some false) = false := by
    rw [List.any_eq_false]
    intro clause mem
    simpa using differs mem
  have kept : clauses.filter (·.constant? != some true) =
      clauses.filter (·.constant?.isNone) := by
    apply List.filter_congr
    intro clause mem
    have possible := differs mem
    cases constant : clause.constant? with
    | none => rfl
    | some value =>
      cases value with
      | false => exact absurd constant possible
      | true => rfl
  rw [essential, settled, kept]
  rfl

omit layout in
/-- Nothing is worked out of a conjunction without constants. -/
theorem essential_of_noConstants (nonempty : clauses ≠ []) (free : NoConstants clauses) :
    essential clauses = clauses := by
  have possible : .constant false ∉ clauses := fun mem => nomatch free _ mem
  have kept : clauses.filter (·.constant?.isNone) = clauses := by
    rw [List.filter_eq_self]
    intro clause mem
    rw [free clause mem]
    rfl
  rw [essential_of_not_false possible, kept]
  cases clauses with
  | nil => exact absurd rfl nonempty
  | cons clause rest => rfl

/-- A clause that is no constant stands for itself. -/
theorem fragments_single {clause : Clause E} (free : clause.constant? = none) :
    (single clause).fragments layout = clause.fragments layout false := by
  cases clause with
  | constant value => cases free
  | null | truth | bound | related | occupied => rfl

/-- Without constants, a conjunction is made of the fragments of all its clauses. -/
theorem fragments_of_noConstants (free : NoConstants clauses) :
    (ofList clauses).fragments layout = joined layout clauses := by
  match clauses with
  | [] => rfl
  | [clause] => exact fragments_single layout (free clause List.mem_cons_self)
  | clause :: other :: rest =>
    exact congrArg (joined layout) (essential_of_noConstants (List.cons_ne_nil _ _) free)

end Conjunction

/-! ## Outlines -/

/-- The fragment without its value. -/
def Fragment.blank : Fragment → Fragment
  | .sql text => .sql text
  | .placeholder column _ => .placeholder column (.scalar .null)

/-- The clause without its bound value. -/
def Clause.blank {E : Type} : Clause E → Clause E
  | .bound column comparison _ => .bound column comparison (.scalar .null)
  | .related quantifier source hop condition => .related quantifier source hop condition.blank
  | .null column negated => .null column negated
  | .truth column negated value => .truth column negated value
  | .occupied source hop negated => .occupied source hop negated
  | .constant value => .constant value

namespace Clause

variable {E : Type} {schema : Schema E}

theorem isQuery_blank (clause : Clause E) : clause.blank.isQuery = clause.isQuery := by
  cases clause <;> rfl

theorem constant?_blank (clause : Clause E) : clause.blank.constant? = clause.constant? := by
  cases clause <;> rfl

theorem enclose_blank (clause : Clause E) (fragments : List Fragment) :
    clause.blank.enclose (fragments.map Fragment.blank) =
      (clause.enclose fragments).map Fragment.blank := by
  rw [enclose, enclose, isQuery_blank]
  split
  · rw [List.map_cons, List.map_append]
    rfl
  · rfl

theorem fragments_blank (layout : schema.Layout) (nested : Bool) (clause : Clause E) :
    clause.blank.fragments layout nested =
      (clause.fragments layout nested).map Fragment.blank := by
  induction clause generalizing nested with
  | null | truth | bound | occupied | constant => rfl
  | related quantifier source hop condition ih =>
    rw [blank, fragments, fragments, ih, enclose_blank, List.map_cons, List.map_append]
    rfl

end Clause

namespace Conjunction

variable {E : Type} {schema : Schema E} (layout : schema.Layout)

theorem blank_intercalate (separator : String) (parts : List (List Fragment)) :
    (List.intercalate [.sql separator] parts).map Fragment.blank =
      List.intercalate [.sql separator] (parts.map (List.map Fragment.blank)) := by
  induction parts with
  | nil => rfl
  | cons part parts ih =>
    cases parts with
    | nil => rw [List.map_singleton, List.intercalate_singleton, List.intercalate_singleton]
    | cons other parts =>
      rw [List.map_cons, List.map_cons, List.intercalate_cons_cons, List.intercalate_cons_cons,
        ← List.map_cons, ← ih, List.map_append, List.map_append]
      rfl

theorem joined_blank (clauses : List (Clause E)) :
    joined layout (clauses.map Clause.blank) = (joined layout clauses).map Fragment.blank := by
  match clauses with
  | [] => rfl
  | [clause] => exact clause.fragments_blank layout false
  | clause :: other :: rest =>
    show List.intercalate [.sql " AND "] (((clause :: other :: rest).map Clause.blank).map _) =
      (List.intercalate [.sql " AND "] ((clause :: other :: rest).map _)).map Fragment.blank
    rw [blank_intercalate, List.map_map, List.map_map]
    congr 1
    apply List.map_congr_left
    intro c _
    exact (congrArg _ (c.fragments_blank layout false)).trans (c.enclose_blank _)

omit layout in
/-- Constants have no bound values to lose. -/
theorem essential_blank (clauses : List (Clause E)) :
    essential (clauses.map Clause.blank) = (essential clauses).map Clause.blank := by
  have settled : (clauses.map Clause.blank).any (·.constant? == some false) =
      clauses.any (·.constant? == some false) := by
    simp only [List.any_map, Function.comp_def, Clause.constant?_blank]
  have kept : (clauses.map Clause.blank).filter (·.constant? != some true) =
      (clauses.filter (·.constant? != some true)).map Clause.blank := by
    simp only [List.filter_map, Function.comp_def, Clause.constant?_blank]
  rw [essential, essential, settled, kept]
  split
  · rfl
  · cases clauses.filter (·.constant? != some true) <;> rfl

theorem fragments_blank (clauses : List (Clause E)) :
    (ofList (clauses.map Clause.blank)).fragments layout =
      ((ofList clauses).fragments layout).map Fragment.blank := by
  match clauses with
  | [] => rfl
  | [clause] =>
    cases constant : clause.constant? with
    | none =>
      show (single clause.blank).fragments layout = ((single clause).fragments layout).map _
      rw [fragments_single layout constant,
        fragments_single layout (clause.constant?_blank.trans constant), clause.fragments_blank]
    | some value =>
      cases clause with
      | constant value => rfl
      | null | truth | bound | related | occupied => cases constant
  | clause :: other :: rest =>
    show joined layout (essential ((clause :: other :: rest).map Clause.blank)) = _
    rw [essential_blank, joined_blank]
    rfl

end Conjunction

end Criteria
