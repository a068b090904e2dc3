import Criteria.Proofs.Compilation
import Criteria.Proofs.Value.Writing
import Criteria.Relational.Compile

/-!
# What a criterion asks

A criterion that asks anything puts one question, whatever its value is: each value has an operand,
since what a text means can always be written. A clause for the criterion is the answer to its
question at the end of its path.
-/

namespace Criteria
set_option autoImplicit false

variable {E : Type}

/-- The question that a criterion puts to the attribute at the end of its path. -/
inductive RawCriterion.Puts (s : Separators) (c : RawCriterion) : Question → Prop
  | presence (op : c.op = .known .presence) : Puts s c (.present c.present)
  | compare {comp : Comparison} {v : Value} (op : c.op = .known (.compare comp))
      (operand : Question.operand s comp c.value = .ok v) : Puts s c (.compare comp v)

theorem Question.exists_operand (s : Separators) (comp : Comparison) (x : Option Text) :
    ∃ v, operand s comp x = .ok v := by
  unfold operand
  split
  · obtain ⟨w, written⟩ := exists_write_readValue s x
    rw [written]
    exact ⟨_, rfl⟩
  · exact ⟨_, rfl⟩

/-- A constant answers comparisons only. -/
theorem Question.constant_of_ofAttribute {q : Question} {k : Constant} {clause : Clause E}
    (asked : q.ofAttribute (.constant k) = .ok clause) :
    (∃ c v, q = .compare c v) ∧ ∃ holds, clause = .constant holds := by
  cases q with
  | present expected => cases asked
  | compare c v =>
    rw [ofAttribute, ofConstant] at asked
    split at asked
    · cases asked
      exact ⟨⟨c, v, rfl⟩, _, rfl⟩
    · cases asked

/-- Every operator but the unknown one makes a question. -/
theorem RawCriterion.exists_puts (s : Separators) {c : RawCriterion} {op : Operator}
    (known : c.op = .known op) (asks : op ≠ .unknown) : ∃ q, c.Puts s q := by
  cases op with
  | compare comp =>
    obtain ⟨v, operand⟩ := Question.exists_operand s comp c.value
    exact ⟨_, .compare known operand⟩
  | presence => exact ⟨_, .presence known⟩
  | unknown => exact absurd rfl asks

namespace Relational

variable {schema : Schema E} {root : E} {s : Separators} {navigation : Navigation E}
  {c : RawCriterion} {q : Question}

theorem requirePath_eq (op : Operator) (c : RawCriterion) :
    requirePath op c = if (Path.ofKey c.key).field = [] then .error (.fieldRequired op c.key)
      else .ok (Path.ofKey c.key) := by
  simp only [requirePath, List.isEmpty_iff]

theorem compile_of_empty {op : Operator} (known : c.op = .known op) (asks : op ≠ .unknown)
    (empty : (Path.ofKey c.key).field = []) :
    compile schema root s navigation c = .error (.fieldRequired op c.key) := by
  cases op with
  | compare comp =>
    simp only [compile, comparison, known, requirePath_eq, if_pos empty]
    rfl
  | presence =>
    simp only [compile, presence, known, requirePath_eq, if_pos empty]
    rfl
  | unknown => exact absurd rfl asks

/-- A criterion whose path ends in a field puts its question to the end of the path. -/
theorem compile_of_puts (puts : c.Puts s q) (field : (Path.ofKey c.key).field ≠ []) :
    compile schema root s navigation c =
      (navigate schema root navigation (c.key.getD []) (Path.ofKey c.key) q).map some := by
  cases puts with
  | presence known =>
    simp only [compile, presence, known, requirePath_eq, if_neg field]
    rfl
  | compare known operand =>
    simp only [compile, comparison, known, requirePath_eq, if_neg field, operand]
    rfl

/-- A criterion with a clause put a question, and the clause answers it. -/
theorem exists_puts_of_compile {clause : Clause E}
    (compiled : compile schema root s navigation c = .ok (some clause)) :
    ∃ q, c.Puts s q ∧
      navigate schema root navigation (c.key.getD []) (Path.ofKey c.key) q = .ok clause := by
  cases known : c.op with
  | foreign x =>
    rw [compile, known] at compiled
    cases compiled
  | known op =>
    by_cases unknown : op = .unknown
    · rw [compile, known, unknown] at compiled
      cases compiled
    by_cases empty : (Path.ofKey c.key).field = []
    · rw [compile_of_empty known unknown empty] at compiled
      cases compiled
    obtain ⟨q, puts⟩ := RawCriterion.exists_puts s known unknown
    rw [compile_of_puts puts empty] at compiled
    obtain ⟨found, navigated, eq⟩ := map_eq_ok.1 compiled
    cases eq
    exact ⟨q, puts, navigated⟩

end Relational

end Criteria
