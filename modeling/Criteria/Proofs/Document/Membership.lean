import Criteria.Proofs.Document.Matching
import Criteria.Proofs.Value.Items
import Criteria.Relational.Compile

/-!
# Membership in the items of a value

A criterion with the array flag asks for membership in the items of its value. A relational store
reads the same items from the value, and the texts in the filter tell the scalars that it gets. For
a value of one item the filter is the one without the flag, with a single operand in place of the
value, as long as the item has no escapes: only the array flag makes them be taken back.
-/

namespace Criteria
set_option autoImplicit false

namespace Filter

/-! ## Items as operands -/

/-- Membership in the texts, hedged by membership in the scalars if there are any. -/
def ofMembers (key : Text) (negated : Bool) (texts : List Text) (typed : List Scalar) : Filter :=
  ofTests key (membership negated (texts.map .text))
    (if typed.isEmpty then none else some (membership negated typed))

/-- The items of the value that can be taken as values of the declared type, taken so. -/
def typedItems (s : Separators) (value : Option Text) : Option ValueType → List Scalar
  | none => []
  | some ty => (items value).filterMap (ty.coerce s)

theorem ofItems_eq (s : Separators) (key : Text) (negated : Bool) (value : Option Text)
    (ty : Option ValueType) :
    ofItems s key negated value ty =
      ofMembers key negated (items value) (typedItems s value ty) := by
  cases ty <;> rfl

/-- With the array flag, equality is membership in the items. -/
theorem ofComparison_array {op : Comparison} (equality : op.isOrdering = false) (s : Separators)
    (key : Text) (value : Option Text) (ty : Option ValueType) :
    ofComparison s key op value true ty = ofItems s key (op == .ne) value ty := by
  unfold ofComparison
  rw [equality]
  rfl

/-- Without the flag, a declared type makes the filter compare the value as a whole. -/
theorem ofComparison_typed (s : Separators) (key : Text) (op : Comparison) (value : Option Text)
    (ty : ValueType) :
    ofComparison s key op value false (some ty) = ofTyped s key op value ty := rfl

end Filter

namespace Document

end Document

/-! ## A single item -/

/-- Equality with an operand, or its negation, as membership in that operand alone. -/
def FieldTest.asMembership : FieldTest → FieldTest
  | .compare .eq a => .oneOf [a]
  | .compare .ne a => .noneOf [a]
  | test => test

namespace Filter

/-- The filter with membership in a single operand in place of equality. -/
def asMembership : Filter → Filter
  | field key test => field key test.asMembership
  | hedge key plain typed => hedge key plain.asMembership typed.asMembership

theorem asMembership_ofTests (key : Text) (plain : FieldTest) (typed : Option FieldTest) :
    (ofTests key plain typed).asMembership =
      ofTests key plain.asMembership (typed.map FieldTest.asMembership) := by
  cases typed <;> rfl

theorem asMembership_compare {op : Comparison} (equality : op.isOrdering = false) (a : Scalar) :
    (FieldTest.compare op a).asMembership = membership (op == .ne) [a] := by
  cases op with
  | eq | ne => rfl
  | gt | ge | lt | le => cases equality

theorem plain_eq_of_ofTests {key : Text} {plain plain' : FieldTest} {typed typed' : Option FieldTest}
    (h : ofTests key plain typed = ofTests key plain' typed') : plain = plain' := by
  cases typed <;> cases typed' <;> cases h <;> rfl

theorem membership_inj {negated : Bool} {as bs : List Scalar} :
    membership negated as = membership negated bs ↔ as = bs := by
  cases negated <;> simp [membership]

section SingleItem

variable (s : Separators) (key : Text) {op : Comparison} (equality : op.isOrdering = false)
  (ty : ValueType)
include equality

theorem asMembership_ofTyped (t : Text) :
    (ofTyped s key op (some t) ty).asMembership =
      ofMembers key (op == .ne) [t] ((ty.coerce s t).toList) := by
  rw [ofTyped, asMembership_ofTests, operand, asMembership_compare equality, Option.bind_some]
  cases ty.coerce s t with
  | none => rfl
  | some a =>
    rw [Option.map_some, Option.map_some, asMembership_compare equality]
    rfl

/-- Membership in a single item is equality with the item without its escapes. -/
theorem ofItems_of_bare {v : Text} (ne : v ≠ []) (bare : Commas.isList v = false) :
    ofItems s key (op == .ne) (some v) (some ty) =
      (ofTyped s key op (some (Commas.unescape v)) ty).asMembership := by
  have single : items (some v) = [Commas.unescape v] := by
    rw [items, Option.getD_some, Commas.split_of_bare bare ne]
    rfl
  rw [asMembership_ofTyped s key equality, ofItems_eq, typedItems, single, List.filterMap_cons]
  cases ty.coerce s (Commas.unescape v) <;> rfl

/-- Different texts are compared differently. -/
theorem asMembership_ofTyped_inj {t u : Text} :
    (ofTyped s key op (some t) ty).asMembership = (ofTyped s key op (some u) ty).asMembership ↔
      t = u := by
  constructor
  · intro same
    rw [asMembership_ofTyped s key equality, asMembership_ofTyped s key equality] at same
    have operands := membership_inj.1 (plain_eq_of_ofTests same)
    simpa using operands
  · rintro rfl
    rfl

end SingleItem

end Filter

namespace Document

/-- **The array flag changes nothing but the form of a filter for a single value, unless the value
has an escaped comma.** With a declared type and a value that is no list, the filter with the flag
is the one without it, membership standing in place of equality, exactly if there is no comma in
the value. -/
theorem compile_array_eq_iff (s : Separators) (c : Criterion) {op : Comparison}
    (equality : op.isOrdering = false) (field : isBlankText c.key = false) (ty : ValueType)
    {v : Text} (ne : v ≠ []) (bare : Commas.isList v = false) :
    let criterion (array : Bool) : Criterion :=
      { c with op := .compare op, value := some v, array := array, valueType := some ty }
    ∃ one many, compile s (criterion false).raw = .ok (some one) ∧
      compile s (criterion true).raw = .ok (some many) ∧ (many = one.asMembership ↔ ',' ∉ v) := by
  intro criterion
  refine ⟨_, _, compile_comparison s (criterion false) op field,
    compile_comparison s (criterion true) op field, ?_⟩
  show Filter.ofComparison s c.key op (some v) true (some ty) =
    (Filter.ofComparison s c.key op (some v) false (some ty)).asMembership ↔ ',' ∉ v
  rw [Filter.ofComparison_array equality, Filter.ofComparison_typed,
    Filter.ofItems_of_bare s c.key equality ty ne bare,
    Filter.asMembership_ofTyped_inj s c.key equality, Commas.unescape_eq_self_iff bare]

/-- A word for a truth value, without any comma. -/
theorem compile_array_eq_word :
    let v := "TRUE".toList
    let criterion (array : Bool) : Criterion := {
      key := "k".toList
      op := .compare .ne
      value := some v
      array := array
      valueType := some .bool }
    Comparison.ne.isOrdering = false ∧ isBlankText "k".toList = false ∧ v ≠ [] ∧
      Commas.isList v = false ∧
      ∃ one many, compile {} (criterion false).raw = .ok (some one) ∧
        compile {} (criterion true).raw = .ok (some many) ∧ many = one.asMembership := by
  intro v criterion
  have field : isBlankText "k".toList = false := by decide
  have ne : v ≠ [] := by decide
  have bare : Commas.isList v = false := by decide
  obtain ⟨one, many, compiled, compiled', iff⟩ :=
    compile_array_eq_iff {} (criterion false) (show Comparison.ne.isOrdering = false from rfl)
      field .bool ne bare
  exact ⟨rfl, field, ne, bare, one, many, compiled, compiled', iff.2 (by decide)⟩

/-- An escaped comma is a comma of the number only with the array flag. Without it the number ends
at the escape. -/
theorem compile_array_escaped :
    let criterion (array : Bool) : Criterion := {
      key := "k".toList
      op := .compare .eq
      value := some "1\\,234".toList
      array := array
      valueType := some .number }
    ∃ one many, compile {} (criterion false).raw = .ok (some one) ∧
      compile {} (criterion true).raw = .ok (some many) ∧
      one = .hedge "k".toList (.compare .eq (.text "1\\,234".toList))
        (.compare .eq (.number (.int 1))) ∧
      many = .hedge "k".toList (.oneOf [.text "1,234".toList]) (.oneOf [.number (.int 1234)]) ∧
      many ≠ one.asMembership :=
  ⟨_, _, rfl, rfl, rfl, rfl, by decide⟩

end Document

end Criteria
