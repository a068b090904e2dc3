import Criteria.Proofs.Document.Membership

/-!
# What a declared type adds to a filter

Where a criterion asks for membership or for an order, a declared type changes nothing in the filter
without it. If some of the texts that the criterion offers can be taken as values of the type, these
values make one more disjunct, with the same operator on the same key.
-/

namespace Criteria
set_option autoImplicit false

/-! ## Texts taken as values -/

/-- The values that the texts are taken as: one for each text that can be taken so, in order. -/
def ValueType.Takes (s : Separators) (ty : ValueType) (texts : List Text) (typed : List Scalar) :
    Prop :=
  List.Forall₂ (fun t a => ty.coerce s t = some a) (texts.filter fun t => (ty.coerce s t).isSome)
    typed

namespace ValueType

variable {s : Separators} {ty : ValueType} {texts : List Text} {typed : List Scalar}

theorem takes_filterMap (s : Separators) (ty : ValueType) (texts : List Text) :
    ty.Takes s texts (texts.filterMap (ty.coerce s)) := by
  induction texts with
  | nil => exact .nil
  | cons t texts ih =>
    cases taken : ty.coerce s t with
    | none =>
      rw [Takes, List.filter_cons_of_neg (by simp [taken]),
        List.filterMap_cons_none (f := fun u => ty.coerce s u) taken]
      exact ih
    | some a =>
      rw [Takes, List.filter_cons_of_pos (by simp [taken]),
        List.filterMap_cons_some (f := fun u => ty.coerce s u) taken]
      exact .cons taken ih

theorem Takes.eq_nil_iff (takes : ty.Takes s texts typed) :
    typed = [] ↔ ∀ t ∈ texts, ty.coerce s t = none := by
  rw [← List.length_eq_zero_iff, ← takes.length_eq, List.length_eq_zero_iff,
    List.filter_eq_nil_iff]
  simp

/-- What a text is taken as is a value of the type. -/
theorem holds_of_coerce {t : Text} {a : Scalar} (taken : ty.coerce s t = some a) :
    ty.holds a = true := by
  cases ty with
  | number =>
    obtain ⟨n, -, rfl⟩ := Option.map_eq_some_iff.1 taken
    rfl
  | bool =>
    obtain ⟨b, -, rfl⟩ := Option.map_eq_some_iff.1 taken
    rfl

theorem Takes.holds (takes : ty.Takes s texts typed) : ∀ a ∈ typed, ty.holds a = true := by
  unfold Takes at takes
  generalize texts.filter _ = kept at takes
  induction takes with
  | nil =>
    intro a mem
    cases mem
  | cons taken _ ih =>
    intro a mem
    rcases List.mem_cons.1 mem with rfl | mem
    · exact holds_of_coerce taken
    · exact ih a mem

end ValueType

/-! ## The disjunct -/

/-- The texts that a comparison offers to a declared type: the items of the value if it asks for
membership, and the value as a whole if it asks for an order. -/
def Comparison.offers (op : Comparison) (value : Option Text) : List Text :=
  if op.isOrdering then value.toList else Filter.items value

/-- The operands of a comparison without a declared type. -/
def Comparison.texts (op : Comparison) (value : Option Text) : List Scalar :=
  if op.isOrdering then [Filter.operand value] else (Filter.items value).map .text

/-- The test of a field, as the store reads it, that has the operator of the comparison and just
these operands. -/
inductive Comparison.Asks : Comparison → List Scalar → Document → Prop
  | order {op : Comparison} (ordering : op.isOrdering = true) (a : Scalar) :
      Asks op [a] (.single op.filterWord (.scalar a))
  | oneOf (operands : List Scalar) :
      Asks .eq operands (.single "$in" (.array (operands.map .scalar)))
  | noneOf (operands : List Scalar) :
      Asks .ne operands (.single "$nin" (.array (operands.map .scalar)))

namespace Filter

/-- The filter is `plain`, which asks for the texts, unless there are typed operands. Then they are
asked for in one more disjunct, on the same key and with the same operator. -/
structure Adds (op : Comparison) (key : Text) (texts typed : List Scalar) (plain filter : Filter) :
    Prop where
  /-- The filter without a declared type. -/
  base : ∃ test, plain.document = .object [(key, test)] ∧ op.Asks texts test
  same : typed = [] → filter = plain
  disjunct : typed ≠ [] → ∃ test, op.Asks typed test ∧
    filter.document = .single "$or" (.array [plain.document, .object [(key, test)]])

/-- The filter of a test and perhaps another one adds what the other one asks for. -/
theorem adds_ofTests {op : Comparison} (key : Text) {texts typed : List Scalar} {plain : FieldTest}
    {other : Option FieldTest} (base : op.Asks texts plain.document)
    (none : typed = [] → other = none)
    (some : typed ≠ [] → ∃ test, other = some test ∧ op.Asks typed test.document) :
    Adds op key texts typed (field key plain) (ofTests key plain other) where
  base := ⟨_, rfl, base⟩
  same := by
    intro empty
    rw [none empty]
    rfl
  disjunct := by
    intro nonempty
    obtain ⟨test, eq, asks⟩ := some nonempty
    rw [eq]
    exact ⟨_, asks, rfl⟩

theorem asks_membership {op : Comparison} (equality : op.isOrdering = false)
    (operands : List Scalar) : op.Asks operands (membership (op == .ne) operands).document := by
  cases op with
  | eq => exact .oneOf operands
  | ne => exact .noneOf operands
  | gt | ge | lt | le => cases equality

section Scope

variable (s : Separators) (key : Text) {op : Comparison} (value : Option Text) (ty : ValueType)

/-- An order is asked of the value as a whole, whatever the array flag is. -/
theorem adds_of_ordering (ordering : op.isOrdering = true) (array : Bool) :
    Adds op key [operand value] ((op.offers value).filterMap (ty.coerce s))
      (ofComparison s key op value array none) (ofComparison s key op value array (some ty)) := by
  have plain :
      ofComparison s key op value array none = field key (.compare op (operand value)) := by
    simp [ofComparison, ordering]
  have hedged : ofComparison s key op value array (some ty) = ofTyped s key op value ty := by
    simp [ofComparison, ordering]
  have single : (op.offers value).filterMap (ty.coerce s) =
      (value.bind fun t => ty.coerce s t).toList := by
    rw [Comparison.offers, if_pos ordering]
    cases value with
    | none => rfl
    | some t => cases taken : ty.coerce s t <;> simp [taken]
  rw [plain, hedged, single, ofTyped]
  apply adds_ofTests key (.order ordering _)
  · intro empty
    rw [Option.toList_eq_nil_iff.1 empty]
    rfl
  · intro nonempty
    obtain ⟨a, taken⟩ := Option.ne_none_iff_exists'.1 (mt Option.toList_eq_nil_iff.2 nonempty)
    rw [taken]
    exact ⟨_, rfl, .order ordering a⟩

/-- Membership is asked of the items of the value. -/
theorem adds_of_membership (equality : op.isOrdering = false) :
    Adds op key ((items value).map .text) ((op.offers value).filterMap (ty.coerce s))
      (ofComparison s key op value true none) (ofComparison s key op value true (some ty)) := by
  have offers : op.offers value = items value := by simp [Comparison.offers, equality]
  rw [ofComparison_array equality, ofComparison_array equality, ofItems_eq s key _ value (some ty),
    offers]
  apply adds_ofTests key (asks_membership equality _)
  · intro empty
    rw [typedItems, empty]
    rfl
  · intro nonempty
    rw [typedItems, if_neg (mt List.isEmpty_iff.1 nonempty)]
    exact ⟨_, rfl, asks_membership equality _⟩

end Scope

end Filter

/-- **A declared type only adds one disjunct to a membership or to an order.** A criterion with the
array flag, or on an order, has a filter without a declared type and one with it. The second one is
the first one if no text on offer can be taken as a value of the type. Otherwise it adds a disjunct
with the same operator on the same key, whose operands are the values that the texts are taken as:
one for each text that can be taken so, in their order, and all of the declared type. -/
theorem Document.compile_adds (s : Separators) (c : Criterion) {op : Comparison}
    (field : isBlankText c.key = false) (scope : c.array = true ∨ op.isOrdering = true)
    (ty : ValueType) :
    let criterion (declared : Option ValueType) : Criterion :=
      { c with op := .compare op, valueType := declared }
    ∃ plain filter typed,
      compile s (criterion none).raw = .ok (some plain) ∧
      compile s (criterion (some ty)).raw = .ok (some filter) ∧
      Filter.Adds op c.key (op.texts c.value) typed plain filter ∧
      ty.Takes s (op.offers c.value) typed ∧
      (typed = [] ↔ ∀ t ∈ op.offers c.value, ty.coerce s t = none) ∧
      ∀ a ∈ typed, ty.holds a = true := by
  intro criterion
  have takes := ValueType.takes_filterMap s ty (op.offers c.value)
  refine ⟨_, _, _, compile_comparison s (criterion none) op field,
    compile_comparison s (criterion (some ty)) op field, ?_, takes, takes.eq_nil_iff, takes.holds⟩
  cases ordering : op.isOrdering with
  | true =>
    rw [Comparison.texts, if_pos ordering]
    exact Filter.adds_of_ordering s c.key c.value ty ordering c.array
  | false =>
    have array : c.array = true := scope.resolve_right (by simp [ordering])
    rw [Comparison.texts, ordering]
    show Filter.Adds op c.key _ _ (Filter.ofComparison s c.key op c.value c.array none)
      (Filter.ofComparison s c.key op c.value c.array (some ty))
    rw [array]
    exact Filter.adds_of_membership s c.key c.value ty ordering

/-- Some of the items are numbers, one of them twice, and zero among them. -/
theorem Document.compile_adds_zeros :
    let c : Criterion := {
      key := "size".toList
      op := .unknown
      value := some "0,x,0,a\\,b,1\\,5".toList
      array := true }
    isBlankText c.key = false ∧ (c.array = true ∨ Comparison.ne.isOrdering = true) ∧
      ∃ plain filter typed,
        compile {} ({ c with op := .compare .ne } : Criterion).raw = .ok (some plain) ∧
        compile {} ({ c with op := .compare .ne, valueType := some .number } : Criterion).raw =
          .ok (some filter) ∧
        Filter.Adds .ne c.key (Comparison.ne.texts c.value) typed plain filter ∧
        ValueType.number.Takes {} (Comparison.ne.offers c.value) typed := by
  intro c
  have field : isBlankText c.key = false := by decide
  have scope : c.array = true ∨ Comparison.ne.isOrdering = true := .inl rfl
  obtain ⟨plain, filter, typed, compiled, compiled', adds, takes, -⟩ :=
    compile_adds {} c field scope .number
  exact ⟨field, scope, plain, filter, typed, compiled, compiled', adds, takes⟩

end Criteria
