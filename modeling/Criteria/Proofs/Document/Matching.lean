import Criteria.Document.Compile

/-!
# What equality filters match

How a store reads the filters for equality and for its negation, and that the two are opposites.
The exception is a hedge. It is a disjunction for either operator, and no field content is both a
text and a value of the declared type, so a hedged negation matches every record.
-/

namespace Criteria
set_option autoImplicit false

/-- Whether the store takes two scalars for equal: only scalars of the same kind are. -/
def Scalar.equals : Scalar → Scalar → Bool
  | .null, .null => true
  | .bool a, .bool b => a == b
  | .number m, .number n => m.same n
  | .moment m, .moment n => m.same n
  | .text t, .text u => t == u
  | _, _ => false

namespace Document

/-! ## How the store reads a filter -/

section Reading

/- The store decides which contents a pattern matches, and a record says what its fields contain. -/
variable (fits : Pattern → Option Scalar → Bool) (record : Text → Option Scalar)

/-- Whether the content of a field equals an operand; a field that is not there counts as null. -/
def isOperand (content : Option Scalar) : Document → Bool
  | .scalar operand => (content.getD .null).equals operand
  | _ => false

/-- Whether the content of a field passes a test for equality, membership or matching, or the
negation of one. -/
def passes (content : Option Scalar) : Document → Bool
  | .object [(word, .scalar operand)] =>
    if word = "$eq".toList then isOperand content (.scalar operand)
    else if word = "$ne".toList then !isOperand content (.scalar operand)
    else false
  | .object [(word, .array operands)] =>
    if word = "$in".toList then operands.any (isOperand content)
    else if word = "$nin".toList then !operands.any (isOperand content)
    else false
  | .object [(word, .pattern p)] =>
    if word = "$regex".toList then fits p content
    else if word = "$not".toList then !fits p content
    else false
  | _ => false

mutual

/-- Whether a record passes a filter: a test of one field, or a disjunction of filters. -/
def accepts : Document → Bool
  | .object [(word, .array branches)] => word = "$or".toList && acceptsAny branches
  | .object [(key, test)] => passes fits (record key) test
  | _ => false

/-- Whether a record passes one of the filters. -/
def acceptsAny : List Document → Bool
  | [] => false
  | d :: ds => accepts d || acceptsAny ds

end

variable {fits record}

theorem accepts_field (key : Text) (test : FieldTest) :
    (Filter.field key test).document.accepts fits record =
      test.document.passes fits (record key) := by
  cases test <;> rfl

theorem accepts_hedge (key : Text) (plain typed : FieldTest) :
    (Filter.hedge key plain typed).document.accepts fits record =
      (plain.document.passes fits (record key) || typed.document.passes fits (record key)) := by
  have either : (Filter.hedge key plain typed).document.accepts fits record =
      ((Filter.field key plain).document.accepts fits record ||
        ((Filter.field key typed).document.accepts fits record || false)) := rfl
  rw [either, Bool.or_false, accepts_field, accepts_field]

end Reading

end Document

/-! ## Opposite tests -/

section Opposites

variable (fits : Pattern → Option Scalar → Bool)

/-- One test passes exactly if the other one fails. -/
def FieldTest.Opposite (test other : FieldTest) : Prop :=
  ∀ content, other.document.passes fits content = !test.document.passes fits content

/-- No content passes both tests. -/
def FieldTest.Apart (test other : FieldTest) : Prop :=
  ∀ content, test.document.passes fits content = true → other.document.passes fits content = false

namespace FieldTest

theorem opposite_compare (a : Scalar) : (compare .eq a).Opposite fits (compare .ne a) :=
  fun _ => rfl

theorem opposite_membership (operands : List Scalar) :
    (Filter.membership false operands).Opposite fits (Filter.membership true operands) :=
  fun _ => rfl

theorem opposite_like (p : Pattern) : (like p).Opposite fits (unlike p) := fun _ => rfl

variable {fits}

theorem passes_compare (content : Option Scalar) (a : Scalar) :
    (compare .eq a).document.passes fits content = (content.getD .null).equals a := rfl

theorem passes_membership (content : Option Scalar) (operands : List Scalar) :
    (Filter.membership false operands).document.passes fits content =
      operands.any (content.getD .null).equals := by
  show (operands.map Document.scalar).any (Document.isOperand content) = _
  rw [List.any_map]
  rfl

end FieldTest

end Opposites

/-! ## Texts and values of a type -/

/-- What equals a text equals no value of a declared type. -/
theorem equals_coerce {s : Separators} {t u : Text} {ty : ValueType} {a b : Scalar}
    (text : a.equals (.text t) = true) (typed : ty.coerce s u = some b) : a.equals b = false := by
  cases a with
  | text _ =>
    cases ty with
    | number =>
      obtain ⟨n, -, rfl⟩ := Option.map_eq_some_iff.1 typed
      rfl
    | bool =>
      obtain ⟨b, -, rfl⟩ := Option.map_eq_some_iff.1 typed
      rfl
  | _ => cases text

namespace FieldTest

variable (fits : Pattern → Option Scalar → Bool) {s : Separators} {ty : ValueType}

theorem apart_compare {t : Text} {b : Scalar} (typed : ty.coerce s t = some b) :
    (compare .eq (.text t)).Apart fits (compare .eq b) := by
  intro content passed
  rw [passes_compare] at passed ⊢
  exact equals_coerce passed typed

theorem apart_membership (ts : List Text) :
    (Filter.membership false (ts.map .text)).Apart fits
      (Filter.membership false (ts.filterMap (ty.coerce s))) := by
  intro content passed
  rw [passes_membership] at passed ⊢
  obtain ⟨_, mem, text⟩ := List.any_eq_true.1 passed
  obtain ⟨t, -, rfl⟩ := List.mem_map.1 mem
  rw [List.any_eq_false]
  intro b mem
  obtain ⟨u, -, typed⟩ := List.mem_filterMap.1 mem
  rw [equals_coerce text typed]
  exact Bool.false_ne_true

end FieldTest

/-! ## Filters -/

namespace Filter

section Filters

variable {fits : Pattern → Option Scalar → Bool} {record : Text → Option Scalar}

/-- Without a hedge, opposite tests make opposite filters. -/
theorem accepts_field_opposite {plain other : FieldTest} (opposite : plain.Opposite fits other)
    (key : Text) :
    (field key other).document.accepts fits record =
      !(field key plain).document.accepts fits record := by
  rw [Document.accepts_field, Document.accepts_field, opposite]

/-- Hedged by opposite tests, one of which fails anyway, a filter is passed by every record. -/
theorem accepts_hedge_opposite {plain other typed otherTyped : FieldTest}
    (opposite : plain.Opposite fits other) (oppositeTyped : typed.Opposite fits otherTyped)
    (apart : plain.Apart fits typed) (key : Text) :
    (hedge key other otherTyped).document.accepts fits record = true := by
  rw [Document.accepts_hedge, opposite, oppositeTyped]
  cases passed : plain.document.passes fits (record key) with
  | true => rw [apart _ passed]; rfl
  | false => rfl

end Filters

/-- Whether equality with the value is hedged: it has a declared type, and the value, or an item of
it, can be taken as a value of that type. -/
def isHedged (s : Separators) (value : Option Text) (array : Bool) : Option ValueType → Bool
  | none => false
  | some ty =>
    if array then (items value).any fun t => (ty.coerce s t).isSome
    else value.any fun t => (ty.coerce s t).isSome

section Comparisons

variable (fits : Pattern → Option Scalar → Bool) (record : Text → Option Scalar) (s : Separators)
  (key : Text)

theorem accepts_ofItems_ne (value : Option Text) (ty : Option ValueType) :
    (ofItems s key true value ty).document.accepts fits record =
      (isHedged s value true ty ||
        !(ofItems s key false value ty).document.accepts fits record) := by
  have plain := FieldTest.opposite_membership fits ((items value).map .text)
  cases ty with
  | none => exact accepts_field_opposite plain key
  | some ty =>
    have typed := FieldTest.opposite_membership fits ((items value).filterMap (ty.coerce s))
    have hedged : isHedged s value true (some ty) =
        !((items value).filterMap (ty.coerce s)).isEmpty := by
      rw [isHedged, if_pos rfl, Bool.eq_iff_iff, List.any_eq_true]
      simp [List.filterMap_eq_nil_iff, Option.isSome_iff_ne_none]
    have filter (negated : Bool) : ofItems s key negated value (some ty) =
        ofTests key (membership negated ((items value).map .text))
          (if ((items value).filterMap (ty.coerce s)).isEmpty then none
            else some (membership negated ((items value).filterMap (ty.coerce s)))) := rfl
    rw [hedged, filter, filter]
    cases ((items value).filterMap (ty.coerce s)).isEmpty with
    | true => exact accepts_field_opposite plain key
    | false =>
      apply accepts_hedge_opposite plain typed
      exact FieldTest.apart_membership fits (items value)

theorem accepts_ofTyped_ne (value : Option Text) (ty : ValueType) :
    (ofTyped s key .ne value ty).document.accepts fits record =
      (isHedged s value false (some ty) ||
        !(ofTyped s key .eq value ty).document.accepts fits record) := by
  have plain := FieldTest.opposite_compare fits (operand value)
  cases value with
  | none => exact accepts_field_opposite plain key
  | some t =>
    cases typed : ty.coerce s t with
    | none =>
      have hedged : isHedged s (some t) false (some ty) = false := by simp [isHedged, typed]
      rw [hedged, ofTyped, ofTyped, Option.bind_some, typed]
      exact accepts_field_opposite plain key
    | some b =>
      have hedged : isHedged s (some t) false (some ty) = true := by simp [isHedged, typed]
      rw [hedged, ofTyped, ofTyped, Option.bind_some, typed]
      apply accepts_hedge_opposite plain (FieldTest.opposite_compare fits b)
      exact FieldTest.apart_compare fits typed

theorem accepts_ofLiteral_ne (value : Option Text) :
    (ofLiteral key true value).document.accepts fits record =
      !(ofLiteral key false value).document.accepts fits record := by
  unfold ofLiteral
  split
  · next p _ =>
    apply accepts_field_opposite
    exact FieldTest.opposite_like fits p
  · apply accepts_field_opposite
    exact FieldTest.opposite_compare fits _

/-- A negated comparison passes what the comparison fails, and everything if it is hedged. -/
theorem accepts_ofComparison_ne (value : Option Text) (array : Bool) (ty : Option ValueType) :
    (ofComparison s key .ne value array ty).document.accepts fits record =
      (isHedged s value array ty ||
        !(ofComparison s key .eq value array ty).document.accepts fits record) := by
  cases array with
  | true => exact accepts_ofItems_ne fits record s key value ty
  | false =>
    cases ty with
    | none => exact accepts_ofLiteral_ne fits record key value
    | some ty => exact accepts_ofTyped_ne fits record s key value ty

end Comparisons

end Filter

/-! ## Criteria -/

namespace Document

theorem compile_comparison (s : Separators) (c : Criterion) (op : Comparison)
    (field : isBlankText c.key = false) :
    compile s ({ c with op := .compare op } : Criterion).raw =
      .ok (some (.ofComparison s c.key op c.value c.array c.valueType)) := by
  have key : requireKey (.compare op) (some c.key) = .ok c.key := by
    rw [requireKey, field]
    rfl
  have type : knownType (c.valueType.map .known) = .ok c.valueType := by
    cases c.valueType <;> rfl
  simp only [compile, comparison, Criterion.raw, key, type]
  rfl

/-- **The negation of an equality filter is its opposite, unless it is hedged.** A criterion whose
key names a field has a filter for either operator. If the value, or an item of it, can be taken as
a value of the declared type, every record passes the negation. Otherwise those records pass it that
do not pass the equality. -/
theorem accepts_ne_eq (s : Separators) (c : Criterion) (field : isBlankText c.key = false) :
    ∃ e n, compile s ({ c with op := .compare .eq } : Criterion).raw = .ok (some e) ∧
      compile s ({ c with op := .compare .ne } : Criterion).raw = .ok (some n) ∧
      ∀ fits record, n.document.accepts fits record =
        (Filter.isHedged s c.value c.array c.valueType || !e.document.accepts fits record) := by
  refine ⟨_, _, compile_comparison s c .eq field, compile_comparison s c .ne field, ?_⟩
  intro fits record
  apply Filter.accepts_ofComparison_ne

/-- No item of the value is a number, so nothing is hedged. -/
theorem accepts_ne_sizes :
    let c : Criterion := {
      key := "size".toList
      op := .unknown
      value := some "s,m".toList
      array := true
      valueType := some .number }
    isBlankText c.key = false ∧
      ∃ e n, compile {} ({ c with op := .compare .eq } : Criterion).raw = .ok (some e) ∧
        compile {} ({ c with op := .compare .ne } : Criterion).raw = .ok (some n) ∧
        ∀ fits record, n.document.accepts fits record = !e.document.accepts fits record := by
  intro c
  have field : isBlankText c.key = false := by decide
  obtain ⟨e, n, eq, ne, opposite⟩ := accepts_ne_eq {} c field
  exact ⟨field, e, n, eq, ne, opposite⟩

/-- A record that passes a hedged equality and its negation: its field is equal to the value as a
text, but not as a number. -/
theorem accepts_hedged_both :
    let c : Criterion := {
      key := "k".toList
      op := .unknown
      value := some "5".toList
      valueType := some .number }
    ∃ e n, compile {} ({ c with op := .compare .eq } : Criterion).raw = .ok (some e) ∧
      compile {} ({ c with op := .compare .ne } : Criterion).raw = .ok (some n) ∧
      ∀ fits, e.document.accepts fits (fun _ => some (.text "5".toList)) = true ∧
        n.document.accepts fits (fun _ => some (.text "5".toList)) = true :=
  ⟨_, _, rfl, rfl, fun _ => ⟨rfl, rfl⟩⟩

end Document

end Criteria
