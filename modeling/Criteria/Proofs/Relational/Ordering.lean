import Criteria.Proofs.Relational.Navigation
import Criteria.Proofs.Relational.Questions
import Criteria.Proofs.Value.Canonical
import Criteria.Relational.Orders

/-!
# Orders of texts

An ordering criterion binds the canonical text of its value, whatever the value means and whatever
the column is. Since canonical texts are stable, the bound text may stand in the criterion in place
of the value: the clause is the same. Only a constant binds nothing, since it is compared at once.
-/

namespace Criteria
set_option autoImplicit false

variable {E : Type}

/-- The value is all that the clause binds, whatever the tables are. -/
structure Clause.BindsJust (schema : Schema E) (clause : Clause E) (v : Value) : Prop where
  operand : clause.operand?.map (·.2) = some v
  parameters : ∀ layout : schema.Layout, ∃ name, clause.parameters layout = [(name, v)]

theorem Clause.bindsJust_of_operand? (schema : Schema E) {clause : Clause E} {column : String}
    {v : Value} (operand : clause.operand? = some (column, v)) : clause.BindsJust schema v where
  operand := by rw [operand]; rfl
  parameters layout := by
    rw [parameters_eq, operand]
    exact ⟨_, rfl⟩

namespace Question

/-- Orders are asked of columns, where the text is bound, and of constants. -/
theorem operand?_of_ordering {c : Comparison} (ordering : c.isOrdering = true) {t : Text}
    {a : Attribute E} {clause : Clause E}
    (asked : (compare c (.ofText t)).ofAttribute a = .ok clause) :
    (∃ column, clause.operand? = some (column, .ofText t)) ∨
      (∃ k, a = .constant k) ∧ clause.operand? = none := by
  cases a with
  | constant k =>
    obtain ⟨-, holds, rfl⟩ := constant_of_ofAttribute asked
    exact Or.inr ⟨⟨k, rfl⟩, rfl⟩
  | column column =>
    cases c with
    | eq | ne => cases ordering
    | gt | ge | lt | le =>
      cases asked
      exact Or.inl ⟨column.name, rfl⟩
  | relationship source r =>
    cases c with
    | eq | ne => cases ordering
    | gt | ge | lt | le => cases asked

theorem operand_of_ordering {s : Separators} {c : Comparison} (ordering : c.isOrdering = true)
    {x : Option Text} {w : Text} (written : (readValue s x).write = .ok w) :
    operand s c x = .ok (.ofText w) := by
  rw [operand, if_pos ordering, written]
  rfl

end Question

namespace Relational

variable (schema : Schema E) (root : E) {s : Separators} (navigation : Navigation E)

theorem compile_compare {c : RawCriterion} {op : Comparison}
    (compares : c.op = .known (.compare op)) :
    compile schema root s navigation c =
      (comparison schema root s navigation op c).map some := by
  rw [compile, compares]

/-- Of the value of a comparison, only the operand matters that it stands for. -/
theorem compile_congr {c : RawCriterion} {op : Comparison} (compares : c.op = .known (.compare op))
    {value : Option Text} (same : Question.operand s op value = Question.operand s op c.value) :
    compile schema root s navigation { c with value := value } =
      compile schema root s navigation c := by
  have replaced : ({ c with value := value } : RawCriterion).op = .known (.compare op) := compares
  rw [compile_compare schema root navigation compares,
    compile_compare schema root navigation replaced, comparison, comparison, same]
  rfl

/-- The clause for an ordering criterion binds the canonical text of the value, unless the path ends
in a constant. -/
theorem bindsJust_of_ordering {c : RawCriterion} {op : Comparison}
    (compares : c.op = .known (.compare op)) (ordering : op.isOrdering = true) {w : Text}
    (written : (readValue s c.value).write = .ok w) {clause : Clause E}
    (compiled : compile schema root s navigation c = .ok (some clause)) :
    clause.BindsJust schema (.ofText w) ∨
      schema.EndsInConstant root navigation c.key ∧ clause.operand? = none := by
  rw [compile_compare schema root navigation compares] at compiled
  obtain ⟨found, compared, eq⟩ := map_eq_ok.1 compiled
  cases eq
  obtain ⟨path, required, rest⟩ := bind_eq_ok.1 compared
  obtain ⟨v, operand, navigated⟩ := bind_eq_ok.1 rest
  cases operand.symm.trans (Question.operand_of_ordering ordering written)
  obtain ⟨a, bare, steps, resolved, asked, rfl⟩ := answer_of_navigate navigated
  rcases Question.operand?_of_ordering ordering asked with ⟨column, bound⟩ | ⟨⟨k, rfl⟩, free⟩
  · exact Or.inl (Clause.bindsJust_of_operand? schema ((bare.operand?_along steps).trans bound))
  · rw [eq_ofKey_of_requirePath required] at resolved
    exact Or.inr ⟨⟨k, resolved⟩, (bare.operand?_along steps).trans free⟩

/-- **Canonical texts are stable, and so are the orders of them.** What a text means is written as a
text `w`, and what `w` means is written as `w` again. An ordering criterion with the text as its
value is compiled as if `w` were its value, and the clause has one parameter, which is `w`, or none if
its path ends in a constant. -/
theorem exists_stable_operand (grouping : ∀ c ∈ s.grouping, c.isDigit = false)
    (short : s.decimal.length ≤ 1) (x : Option Text) :
    ∃ w, (readValue s x).write = .ok w ∧ (readValue s (some w)).write = .ok w ∧
      ∀ (E : Type) (schema : Schema E) (root : E) (navigation : Navigation E) (c : RawCriterion)
        (op : Comparison), c.op = .known (.compare op) → op.isOrdering = true → c.value = x →
        compile schema root s navigation { c with value := some w } =
          compile schema root s navigation c ∧
        ∀ clause, compile schema root s navigation c = .ok (some clause) →
          clause.BindsJust schema (.ofText w) ∨
            schema.EndsInConstant root navigation c.key ∧ clause.operand? = none := by
  obtain ⟨w, written, rewritten⟩ := exists_write_reread grouping short x
  refine ⟨w, written, rewritten, ?_⟩
  rintro E schema root navigation c op compares ordering rfl
  constructor
  · apply compile_congr schema root navigation compares
    rw [Question.operand_of_ordering ordering rewritten,
      Question.operand_of_ordering ordering written]
  · intro clause compiled
    exact bindsJust_of_ordering schema root navigation compares ordering written compiled

/-- A list of one item, whose canonical text is the item: the orders of the list are those of the
item. -/
theorem exists_stable_operand_single :
    let c : RawCriterion :=
      ⟨some "lines.sku".toList, .known (.compare .lt), some "07,".toList, false, false, none⟩
    (∀ c ∈ ({} : Separators).grouping, c.isDigit = false) ∧ ({} : Separators).decimal.length ≤ 1 ∧
      (readValue {} c.value).write = .ok "7".toList ∧
      (readValue {} (some "7".toList)).write = .ok "7".toList ∧
      compile OrderBook.schema .order {} .nested { c with value := some "7".toList } =
        compile OrderBook.schema .order {} .nested c ∧
      ∃ clause, compile OrderBook.schema .order {} .nested c = .ok (some clause) ∧
        ∃ name, clause.parameters OrderBook.layout = [(name, .ofText "7".toList)] := by
  intro c
  have grouping : ∀ c ∈ ({} : Separators).grouping, c.isDigit = false := by
    intro c comma
    rw [List.mem_singleton.1 comma]
    rfl
  have short : ({} : Separators).decimal.length ≤ 1 := by decide
  obtain ⟨w, written, rewritten, orders⟩ := exists_stable_operand grouping short c.value
  obtain rfl : w = "7".toList := Except.ok.inj (written.symm.trans rfl)
  obtain ⟨same, bound⟩ :=
    orders _ OrderBook.schema .order .nested c .lt rfl rfl rfl
  refine ⟨grouping, short, written, rewritten, same, _, rfl, ?_⟩
  rcases bound _ rfl with just | ⟨-, none⟩
  · exact just.parameters OrderBook.layout
  · cases none

end Relational

end Criteria
