import Criteria.Document.Compile
import Criteria.Proofs.Compilation
import Criteria.Proofs.Number.Numeral

/-!
# Filters in messages

A message that shows a filter has to write out every scalar in it, and a text of an integer has a
limit of digits. The integers in a filter are read from texts under the same limit, so that every
filter can be shown.
-/

namespace Criteria
set_option autoImplicit false

/-! ## Documents that can be written out -/

/-- The scalar can be written into a message: an integer has no more digits than one that is read
may have. -/
def Scalar.Renders : Scalar → Prop
  | .number (.int n) => n.natAbs < 10 ^ Numeral.maxDigits
  | _ => True

namespace Document

/-- The scalar is somewhere in the document. -/
inductive Holds (a : Scalar) : Document → Prop
  | scalar : Holds a (.scalar a)
  | item {items : List Document} {d : Document} (mem : d ∈ items) (holds : Holds a d) :
      Holds a (.array items)
  | field {fields : List (Text × Document)} {name : Text} {d : Document}
      (mem : (name, d) ∈ fields) (holds : Holds a d) : Holds a (.object fields)

/-- All scalars in the document can be written into a message. -/
def Renders (d : Document) : Prop := ∀ a, d.Holds a → a.Renders

@[simp] theorem renders_scalar (a : Scalar) : (scalar a).Renders ↔ a.Renders := by
  constructor
  · intro renders
    exact renders a .scalar
  · rintro renders _ ⟨⟩
    exact renders

@[simp] theorem renders_pattern (p : Pattern) : (pattern p).Renders := by
  rintro a ⟨⟩

@[simp] theorem renders_array (items : List Document) :
    (array items).Renders ↔ ∀ d ∈ items, d.Renders := by
  constructor
  · intro renders d mem a holds
    exact renders a (.item mem holds)
  · rintro renders a (_ | ⟨mem, holds⟩)
    exact renders _ mem a holds

@[simp] theorem renders_object (fields : List (Text × Document)) :
    (object fields).Renders ↔ ∀ field ∈ fields, field.2.Renders := by
  constructor
  · intro renders field mem a holds
    exact renders a (.field mem holds)
  · rintro renders a (_ | _ | ⟨mem, holds⟩)
    exact renders _ mem a holds

@[simp] theorem renders_single (name : String) (d : Document) :
    (single name d).Renders ↔ d.Renders := by
  simp [single]

end Document

/-! ## Filters -/

theorem renders_of_readNumber {s : Separators} {t : Text} {n : Number}
    (read : readNumber s t = some n) : (Scalar.number n).Renders := by
  obtain ⟨head, -, value⟩ := Option.bind_eq_some_iff.mp read
  unfold NumberHead.number? at value
  split at value
  · obtain ⟨_, -, rest⟩ := Option.bind_eq_some_iff.mp value
    obtain ⟨_, -, float⟩ := Option.bind_eq_some_iff.mp rest
    cases float
    trivial
  · obtain ⟨n, int, rfl⟩ := Option.map_eq_some_iff.mp value
    exact Numeral.int?_lt int

theorem renders_of_coerce {s : Separators} {ty : ValueType} {t : Text} {a : Scalar}
    (taken : ty.coerce s t = some a) : a.Renders := by
  cases ty with
  | number =>
    obtain ⟨n, read, rfl⟩ := Option.map_eq_some_iff.mp taken
    exact renders_of_readNumber read
  | bool =>
    obtain ⟨b, -, rfl⟩ := Option.map_eq_some_iff.mp taken
    trivial

namespace Filter

theorem renders_operand (value : Option Text) : (operand value).Renders := by
  cases value <;> trivial

theorem renders_membership {negated : Bool} {operands : List Scalar}
    (renders : ∀ a ∈ operands, a.Renders) : (membership negated operands).document.Renders := by
  cases negated <;> simpa [membership, FieldTest.document] using renders

theorem renders_compare {op : Comparison} {a : Scalar} (renders : a.Renders) :
    (FieldTest.compare op a).document.Renders := by
  simpa [FieldTest.document] using renders

theorem renders_field {key : Text} {test : FieldTest} (renders : test.document.Renders) :
    (field key test).document.Renders := by
  simpa [document] using renders

theorem renders_ofTests {key : Text} {plain : FieldTest} {typed : Option FieldTest}
    (base : plain.document.Renders) (other : ∀ test ∈ typed, test.document.Renders) :
    (ofTests key plain typed).document.Renders := by
  cases typed with
  | none => exact renders_field base
  | some test => simpa [ofTests, document] using ⟨base, other test rfl⟩

variable (s : Separators) (key : Text) (value : Option Text)

theorem renders_ofItems (negated : Bool) (ty : Option ValueType) :
    (ofItems s key negated value ty).document.Renders := by
  apply renders_ofTests
  · apply renders_membership
    simp [Scalar.Renders]
  · intro test mem
    cases ty with
    | none => cases mem
    | some ty =>
      obtain ⟨-, typed⟩ := Option.mem_ite_none_left.mp mem
      cases typed
      apply renders_membership
      intro a mem
      obtain ⟨t, -, taken⟩ := List.mem_filterMap.mp mem
      exact renders_of_coerce taken

theorem renders_ofTyped (op : Comparison) (ty : ValueType) :
    (ofTyped s key op value ty).document.Renders := by
  apply renders_ofTests
  · exact renders_compare (renders_operand value)
  · intro test mem
    obtain ⟨a, taken, rfl⟩ := Option.map_eq_some_iff.mp mem
    obtain ⟨t, -, taken⟩ := Option.bind_eq_some_iff.mp taken
    exact renders_compare (renders_of_coerce taken)

theorem renders_ofLiteral (negated : Bool) : (ofLiteral key negated value).document.Renders := by
  unfold ofLiteral
  split
  · apply renders_field
    cases negated <;> simp [FieldTest.document]
  · exact renders_field (renders_compare (renders_operand _))

theorem renders_ofComparison (op : Comparison) (array : Bool) (ty : Option ValueType) :
    (ofComparison s key op value array ty).document.Renders := by
  unfold ofComparison
  split
  · exact renders_ofItems s key value _ ty
  · cases ty with
    | some ty => exact renders_ofTyped s key value op ty
    | none =>
      dsimp only
      split
      · exact renders_field (renders_compare (renders_operand value))
      · exact renders_ofLiteral key value _

end Filter

/-- Every filter can be written into a message. -/
theorem Document.renders_compile {s : Separators} {c : RawCriterion} {f : Filter}
    (compiled : compile s c = .ok (some f)) : f.document.Renders := by
  unfold compile at compiled
  split at compiled
  case h_1 => cases compiled
  case h_2 =>
    obtain ⟨g, present, eq⟩ := map_eq_ok.mp compiled
    cases eq
    obtain ⟨key, -, eq⟩ := bind_eq_ok.mp present
    cases eq
    exact Filter.renders_field (by simp [FieldTest.document, Scalar.Renders])
  case h_3 op _ =>
    obtain ⟨g, compares, eq⟩ := map_eq_ok.mp compiled
    cases eq
    obtain ⟨key, -, rest⟩ := bind_eq_ok.mp compares
    obtain ⟨ty, -, eq⟩ := bind_eq_ok.mp rest
    cases eq
    exact Filter.renders_ofComparison s key c.value op c.array ty
  case h_4 => cases compiled

end Criteria
