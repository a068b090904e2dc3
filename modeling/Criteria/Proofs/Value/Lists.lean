import Criteria.Proofs.Value.Rereading

/-!
# Lists that are read back

Any list of two scalars or more that are read back one by one is read back as a whole, if some text
means it at all. No text means a list with a text that ends in a backslash before its last item,
since the comma behind the backslash would be an escaped one; and none means a list that ends in an
empty text, since empty items at the end are dropped.
-/

namespace Criteria
set_option autoImplicit false

/-- Whether the scalar, written on its own, is read as the same scalar. -/
def Scalar.ReadsBack (s : Separators) (a : Scalar) : Prop :=
  ∃ w, a.write = .ok w ∧ (readValue s (some w)).same (.scalar a) = true

/-- Lists whose items stay apart between commas. -/
structure Listable (items : List Scalar) : Prop where
  /-- No text but the last item ends in a backslash. -/
  closed : ∀ t, .text t ∈ items.dropLast → t.getLast? ≠ some '\\'
  /-- The last item is not the empty text. -/
  nonempty : items.getLast? ≠ some (.text [])

namespace Listable

theorem singleton_iff {a : Scalar} : Listable [a] ↔ a ≠ .text [] := by
  constructor
  · intro h eq
    exact h.nonempty (by rw [eq]; rfl)
  · intro ne
    constructor
    · intro t mem
      cases mem
    · simpa using ne

theorem cons_iff {a : Scalar} {items : List Scalar} (ne : items ≠ []) :
    Listable (a :: items) ↔ (∀ t, a = .text t → t.getLast? ≠ some '\\') ∧ Listable items := by
  obtain ⟨b, items, rfl⟩ := List.exists_cons_of_ne_nil ne
  constructor
  · intro h
    refine ⟨fun t eq => h.closed t ?_, fun t mem => h.closed t ?_, ?_⟩
    · rw [eq]
      exact List.mem_cons_self
    · exact List.mem_cons_of_mem _ mem
    · simpa [List.getLast?_cons_cons] using h.nonempty
  · rintro ⟨head, rest⟩
    refine ⟨?_, ?_⟩
    · intro t mem
      rcases List.mem_cons.1 mem with eq | mem
      · exact head t eq.symm
      · exact rest.closed t mem
    · simpa [List.getLast?_cons_cons] using rest.nonempty

end Listable

/-! ## Items as they are written -/

/-- A text is written with its commas escaped, any other scalar without commas and backslashes. -/
theorem Scalar.write_cases {a : Scalar} {w : Text} (written : a.write = .ok w) :
    (∃ t, a = .text t ∧ w = Commas.escape t) ∨ (w ≠ [] ∧ ',' ∉ w ∧ '\\' ∉ w) := by
  cases a with
  | null =>
    cases written
    exact Or.inr (by decide)
  | bool b =>
    cases written
    exact Or.inr (by cases b <;> decide)
  | number n =>
    cases written
    exact Or.inr n.write_plain_text
  | moment m =>
    rw [write] at written
    split at written
    · next d _ =>
      cases written
      refine Or.inr ⟨List.ne_nil_of_mem (Timestamp.mem_write_mark d), ?_, ?_⟩
      · exact fun mem => absurd (Timestamp.mem_write mem) (by decide)
      · exact fun mem => absurd (Timestamp.mem_write mem) (by decide)
    · cases written
  | text t =>
    cases written
    exact Or.inl ⟨t, rfl, rfl⟩

section Items

variable {a : Scalar} {w : Text} (written : a.write = .ok w)
include written

theorem bare_of_write : Commas.isList w = false := by
  rcases Scalar.write_cases written with ⟨t, -, rfl⟩ | ⟨-, comma, -⟩
  · exact Commas.hasBare_escape false t
  · exact Commas.isList_eq_false comma

theorem trailing_of_write (closed : ∀ t, a = .text t → t.getLast? ≠ some '\\') :
    Commas.trailing false w = false := by
  rcases Scalar.write_cases written with ⟨t, text, rfl⟩ | ⟨-, -, backslash⟩
  · rw [Commas.trailing_eq_false_iff, Commas.getLast?_escape]
    exact closed t text
  · exact Commas.trailing_eq_false backslash

theorem ne_nil_of_write (nonempty : a ≠ .text []) : w ≠ [] := by
  rcases Scalar.write_cases written with ⟨t, rfl, rfl⟩ | ⟨ne, -⟩
  · exact Commas.escape_ne_nil fun nil => nonempty (by rw [nil])
  · exact ne

end Items

/-- The written items stay apart if the list is one whose items do. -/
theorem Listable.separated {items : List Scalar} {ws : List Text} (listable : Listable items)
    (ne : items ≠ []) (written : List.Forall₂ (fun a w => a.write = .ok w) items ws) :
    Commas.Separated false ws ∧ ∀ h : ws ≠ [], ws.getLast h ≠ [] := by
  induction written with
  | nil => exact absurd rfl ne
  | @cons a w items ws head rest ih =>
    have bare := bare_of_write head
    -- The last item has a rule of its own: it may end in a backslash, but must not be empty.
    cases rest with
    | nil => exact ⟨.last bare, fun _ => ne_nil_of_write head (singleton_iff.1 listable)⟩
    | cons next rest =>
      obtain ⟨closed, others⟩ := (cons_iff (List.cons_ne_nil _ _)).1 listable
      obtain ⟨separated, last⟩ := ih others (List.cons_ne_nil _ _)
      refine ⟨.more bare (trailing_of_write head closed) separated, fun h => ?_⟩
      rw [List.getLast_cons (List.cons_ne_nil _ _)]
      exact last _

/-! ## Items as they are read -/

theorem Scalar.eq_of_same_text {a : Scalar} {t : Text} (same : a.same (.text t) = true) :
    a = .text t := by
  cases a with
  | text u => exact congrArg text (beq_iff_eq.1 same)
  | _ => cases same

/-- An item without bare commas that is read as a text is the text with its commas escaped. -/
theorem eq_escape_of_same {s : Separators} {p t : Text} (bare : Commas.isList p = false)
    (same : (readScalar s p).same (.text t) = true) : p = Commas.escape t := by
  have read := readFrom_readScalar s p
  rw [Scalar.eq_of_same_text same] at read
  cases read
  exact (Commas.escape_unescape bare).symm

/-- What separated items mean is a list whose items stay apart. -/
theorem Listable.of_separated {s : Separators} {ps : List Text} {items : List Scalar}
    (read : List.Forall₂ (fun p a => (readScalar s p).same a = true) ps items)
    (separated : Commas.Separated false ps) (last : ∀ h : ps ≠ [], ps.getLast h ≠ []) :
    Listable items := by
  induction read with
  | nil => cases separated
  | @cons p a ps items head rest ih =>
    have bare : Commas.isList p = false := separated.isList_of_mem p List.mem_cons_self
    cases rest with
    | nil =>
      rw [singleton_iff]
      rintro rfl
      exact last (List.cons_ne_nil _ _) (eq_escape_of_same bare head)
    | cons next rest =>
      cases separated with
      | more _ closed separated =>
        rw [cons_iff (List.cons_ne_nil _ _)]
        constructor
        · rintro t rfl
          rwa [← Commas.getLast?_escape, ← eq_escape_of_same bare head,
            ← Commas.trailing_eq_false_iff]
        · apply ih separated
          intro h
          have nonempty := last (List.cons_ne_nil _ _)
          rwa [List.getLast_cons h] at nonempty

/-! ## Lists -/

namespace Value

theorem sameAll_map_scalar {α : Type} {f : α → Scalar} {as : List α} {bs : List Scalar} :
    sameAll (as.map fun a => scalar (f a)) (bs.map scalar) = true ↔
      List.Forall₂ (fun a b => (f a).same b = true) as bs := by
  rw [sameAll_iff, List.forall₂_map_left_iff, List.forall₂_map_right_iff]
  rfl

end Value

/-- The search texts of scalars that are read back one by one. -/
theorem exists_items {s : Separators} {items : List Scalar} (each : ∀ a ∈ items, a.ReadsBack s) :
    ∃ ws, List.Forall₂ (fun a w => a.write = .ok w) items ws ∧
      List.Forall₂ (fun w a => (readScalar s w).same a = true) ws items := by
  induction items with
  | nil => exact ⟨[], .nil, .nil⟩
  | cons a items ih =>
    obtain ⟨w, written, same⟩ := each a List.mem_cons_self
    obtain ⟨ws, rest, rest'⟩ := ih fun b mem => each b (List.mem_cons_of_mem _ mem)
    rw [readValue_of_bare s (bare_of_write written)] at same
    exact ⟨w :: ws, .cons written rest, .cons same rest'⟩

/-- A text can mean only lists whose items stay apart. -/
theorem Listable.of_same {s : Separators} {x : Option Text} {items : List Scalar}
    (ne : items ≠ []) (same : (readValue s x).same (.list (items.map .scalar)) = true) :
    Listable items := by
  cases x with
  | none => cases same
  | some t =>
    cases list : Commas.isList t with
    | false =>
      rw [readValue_of_bare s list] at same
      cases same
    | true =>
      rw [readValue_of_isList s list, Value.same, Value.sameAll_map_scalar] at same
      have nonempty : Commas.split t ≠ [] := by
        intro nil
        rw [nil] at same
        cases same
        exact ne rfl
      obtain ⟨separated, last⟩ := Commas.separated_split nonempty
      exact .of_separated same separated last

/-- **A list of scalars that are read back one by one is read back as a whole**, if its items stay
apart. Otherwise no text at all means the list. -/
theorem same_reread_list (s : Separators) {items : List Scalar} (plural : 2 ≤ items.length)
    (each : ∀ a ∈ items, a.ReadsBack s) :
    ∃ w, (Value.list (items.map .scalar)).write = .ok w ∧
      (Listable items → (readValue s (some w)).same (.list (items.map .scalar)) = true) ∧
      (¬ Listable items → ∀ x, (readValue s x).same (.list (items.map .scalar)) = false) := by
  have ne : items ≠ [] := fun nil => by simp [nil] at plural
  obtain ⟨ws, written, reread⟩ := exists_items each
  refine ⟨Commas.join ws, ?_, ?_, ?_⟩
  · have all : Value.writeAll (items.map .scalar) = .ok ws :=
      writeAll_of_forall₂ (List.forall₂_map_left_iff.2 written)
    rw [Value.write, all]
    rfl
  · intro listable
    obtain ⟨separated, last⟩ := listable.separated ne written
    have joined : Commas.isList (Commas.join ws) = true :=
      separated.isList_join (by rwa [← written.length_eq])
    rw [readValue_of_isList s joined, Commas.split_join separated last, Value.same,
      Value.sameAll_map_scalar]
    exact reread
  · intro other x
    rw [← Bool.not_eq_true]
    exact mt (Listable.of_same ne) other

/-- Items of several kinds: an empty text in the middle, commas inside, and a backslash at the very
end. -/
theorem same_reread_mixed_list :
    let items : List Scalar := [.text [], .bool true, .number (.int (-7)), .text "a,b".toList,
      .null, .text "c\\".toList]
    2 ≤ items.length ∧ (∀ a ∈ items, a.ReadsBack {}) ∧ Listable items ∧
      ∃ w, (Value.list (items.map .scalar)).write = .ok w ∧
        (readValue {} (some w)).same (.list (items.map .scalar)) = true := by
  intro items
  have plural : 2 ≤ items.length := by decide
  have each : ∀ a ∈ items, a.ReadsBack {} := by
    intro a mem
    simp only [items, List.mem_cons, List.not_mem_nil, or_false] at mem
    rcases mem with rfl | rfl | rfl | rfl | rfl | rfl <;> exact ⟨_, rfl, rfl⟩
  have listable : Listable items := by
    constructor
    · intro t mem
      simp only [items, List.dropLast, List.mem_cons, List.not_mem_nil, or_false, Scalar.text.injEq,
        reduceCtorEq, false_or] at mem
      rcases mem with rfl | rfl <;> decide
    · decide
  obtain ⟨w, written, whole, -⟩ := same_reread_list {} plural each
  exact ⟨plural, each, listable, w, written, whole listable⟩

/-- Two lists of texts that are read back one by one, but not as a whole: an empty text at the end
is dropped, and a backslash at the end of an item escapes the comma behind it. -/
theorem not_same_reread_list :
    let empty : List Scalar := [.text "a".toList, .text []]
    let escaping : List Scalar := [.text "a\\".toList, .text "b".toList]
    (∀ a ∈ empty ++ escaping, a.ReadsBack {}) ∧
      (Value.list (empty.map .scalar)).write = .ok "a,".toList ∧
      (readValue {} (some "a,".toList)).same (.list (empty.map .scalar)) = false ∧
      (Value.list (escaping.map .scalar)).write = .ok "a\\,b".toList ∧
      (readValue {} (some "a\\,b".toList)).same (.list (escaping.map .scalar)) = false := by
  intro empty escaping
  refine ⟨?_, rfl, rfl, rfl, rfl⟩
  intro a mem
  simp only [empty, escaping, List.cons_append, List.nil_append, List.mem_cons, List.not_mem_nil,
    or_false] at mem
  rcases mem with rfl | rfl | rfl | rfl <;> exact ⟨_, rfl, rfl⟩

end Criteria
