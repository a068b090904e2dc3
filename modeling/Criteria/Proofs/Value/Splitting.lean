import Criteria.Proofs.Value.Commas

/-!
# The items of a text

Splitting is told by what the text looks like, without the splitter: the items of a text are the
only list that, joined and followed by some commas, makes up the text, and whose items can stand
between bare commas. A text has a bare comma exactly if it has two parts or more.
-/

namespace Criteria.Commas
set_option autoImplicit false

/-- The items with a comma between any two, and `n` commas behind the last one, are the text; and no
comma but those separates anything. -/
structure Divided (t : Text) (items : List Text) (n : Nat) : Prop where
  joined : t = join items ++ List.replicate n ','
  /-- No item has a bare comma. -/
  bare : ∀ p ∈ items, ¬ HasBareComma p
  /-- No item before another one ends in a backslash. -/
  closed : ∀ p ∈ items.dropLast, p.getLast? ≠ some '\\'
  /-- Nor does the last item, if a comma stands behind it. -/
  closedLast : 0 < n → ∀ p, items.getLast? = some p → p.getLast? ≠ some '\\'
  /-- The last item is not empty. -/
  nonempty : items.getLast? ≠ some []

/-! ## Separated parts -/

theorem Separated.closed_of_mem {ps : List Text} (h : Separated false ps) :
    ∀ p ∈ ps.dropLast, p.getLast? ≠ some '\\' := by
  induction ps with
  | nil => cases h
  | cons q ps ih =>
    cases h with
    | last _ => simp
    | more _ closed rest =>
      rw [List.dropLast_cons_of_ne_nil rest.ne_nil]
      intro p mem
      rcases List.mem_cons.1 mem with rfl | mem
      · exact trailing_eq_false_iff.1 closed
      · exact ih rest p mem

theorem Separated.of_closed {ps : List Text} (ne : ps ≠ []) (bare : ∀ p ∈ ps, isList p = false)
    (closed : ∀ p ∈ ps.dropLast, p.getLast? ≠ some '\\') : Separated false ps := by
  induction ps with
  | nil => exact absurd rfl ne
  | cons p ps ih =>
    have head : isList p = false := bare p List.mem_cons_self
    by_cases single : ps = []
    · rw [single]
      exact .last head
    · rw [List.dropLast_cons_of_ne_nil single] at closed
      apply Separated.more head
      · exact trailing_eq_false_iff.2 (closed p List.mem_cons_self)
      · apply ih single
        · exact fun q mem => bare q (List.mem_cons_of_mem _ mem)
        · exact fun q mem => closed q (List.mem_cons_of_mem _ mem)

theorem parts_eq_singleton_iff {t : Text} : parts false t = [t] ↔ isList t = false := by
  constructor
  · intro eq
    apply (separated_parts false t).1.isList_of_mem
    rw [eq]
    exact List.mem_cons_self
  · exact parts_of_bare

theorem two_le_length_parts_iff {t : Text} : 2 ≤ (parts false t).length ↔ isList t = true := by
  obtain ⟨separated, joined⟩ := separated_parts false t
  generalize parts false t = ps at separated joined ⊢
  subst joined
  constructor
  · exact separated.isList_join
  · intro list
    cases separated with
    | last bare =>
      rw [join_singleton, isList, bare] at list
      cases list
    | more _ _ rest => exact Nat.succ_le_succ (List.length_pos_iff.2 rest.ne_nil)

/-! ## Commas behind the last item -/

/-- The parts of a text are its items and some empty parts behind them. -/
theorem exists_parts_eq (t : Text) : ∃ n, parts false t = split t ++ List.replicate n [] := by
  obtain ⟨n, empty⟩ : ∃ n, (parts false t).rtakeWhile List.isEmpty = List.replicate n [] :=
    ⟨_, List.eq_replicate_iff.2
      ⟨rfl, fun p mem => List.isEmpty_iff.1 (List.mem_rtakeWhile_imp mem)⟩⟩
  refine ⟨n, ?_⟩
  rw [← empty, split_eq_rdropWhile, List.rdropWhile_append_rtakeWhile]

theorem join_empties (n : Nat) : join (List.replicate (n + 1) []) = List.replicate n ',' := by
  induction n with
  | zero => rfl
  | succ n ih =>
    rw [List.replicate_succ, join_cons (by simp), ih]
    rfl

theorem join_append_empties {ps : List Text} (ne : ps ≠ []) (n : Nat) :
    join (ps ++ List.replicate n []) = join ps ++ List.replicate n ',' := by
  cases n with
  | zero => simp
  | succ n => rw [join_append ne (by simp), join_empties, List.replicate_succ]

theorem getLast?_join {ps : List Text} {p : Text} (ne : p ≠ []) :
    (join (ps ++ [p])).getLast? = p.getLast? := by
  by_cases single : ps = []
  · rw [single, List.nil_append, join_singleton]
  · rw [join_append single (List.cons_ne_nil _ _), join_singleton, List.getLast?_append_cons,
      List.getLast?_cons]
    obtain ⟨c, last⟩ := Option.ne_none_iff_exists'.1 (mt List.getLast?_eq_none_iff.1 ne)
    rw [last, Option.getD_some]

/-- Commas behind a text add empty parts, which are no items. -/
theorem split_append_commas {t : Text} (closed : t.getLast? ≠ some '\\') (n : Nat) :
    split (t ++ List.replicate n ',') = split t := by
  induction n with
  | zero => rw [List.replicate_zero, List.append_nil]
  | succ n ih =>
    have closed' : (t ++ List.replicate n ',').getLast? ≠ some '\\' := by
      rw [List.getLast?_append, List.getLast?_replicate]
      split
      · exact closed
      · simp
    rw [List.replicate_succ', ← List.append_assoc, split_append_comma closed', ih]

/-! ## Items -/

/-- The items of a text divide it. -/
theorem exists_divided (t : Text) : ∃ n, Divided t (split t) n := by
  obtain ⟨k, parted⟩ := exists_parts_eq t
  obtain ⟨separated, joined⟩ := separated_parts false t
  by_cases empty : split t = []
  · -- There are empty parts only, and one comma fewer between them.
    rw [empty, List.nil_append] at parted
    cases k with
    | zero => exact absurd parted (parts_ne_nil _ _)
    | succ n =>
      refine ⟨n, ?_⟩
      rw [empty]
      rw [parted, join_empties] at joined
      exact ⟨joined.symm, by simp, by simp, by simp, by simp⟩
  · obtain ⟨items, last⟩ := separated_split empty
    refine ⟨k, ?_, ?_, items.closed_of_mem, ?_, ?_⟩
    · rw [← join_append_empties empty, ← parted, joined]
    · exact fun p mem => isList_eq_false_iff.1 (isList_of_mem_split mem)
    · intro more p eq
      apply separated.closed_of_mem
      rw [parted, List.dropLast_append_of_ne_nil (by simpa using more.ne')]
      exact List.mem_append_left _ (List.mem_of_getLast? eq)
    · intro nil
      rw [List.getLast?_eq_some_getLast empty] at nil
      exact last empty (Option.some.inj nil)

namespace Divided

variable {t : Text} {items : List Text} {n : Nat} (h : Divided t items n)
include h

theorem split_items : split (join items) = items := by
  by_cases empty : items = []
  · rw [empty]
    rfl
  · apply split_join
    · apply Separated.of_closed empty
      · exact fun p mem => isList_eq_false_iff.2 (h.bare p mem)
      · exact h.closed
    · intro ne nil
      apply h.nonempty
      rw [List.getLast?_eq_some_getLast ne, nil]

theorem closed_join (more : 0 < n) : (join items).getLast? ≠ some '\\' := by
  rcases List.eq_nil_or_concat' items with rfl | ⟨init, p, rfl⟩
  · simp [join]
  · have ne : p ≠ [] := fun nil => h.nonempty (by simp [nil])
    rw [getLast?_join ne]
    exact h.closedLast more p (by simp)

/-- Whatever divides a text is its list of items. -/
theorem split_eq : split t = items := by
  rw [h.joined]
  rcases Nat.eq_zero_or_pos n with rfl | more
  · rw [List.replicate_zero, List.append_nil, h.split_items]
  · rw [split_append_commas (h.closed_join more), h.split_items]

end Divided

/-- **The items of a text are its only division.** A list is what a text is split into exactly if
it divides the text, and a list divides its own join exactly if the join is split into the list
again. A text is a list exactly if it has a bare comma, or, what is the same, if it is not its own
only part, or if it has two parts or more. -/
theorem split_eq_iff :
    (∀ t items, split t = items ↔ ∃ n, Divided t items n) ∧
    (∀ items, split (join items) = items ↔ Divided (join items) items 0) ∧
    ∀ t, (isList t = true ↔ HasBareComma t) ∧ (isList t = true ↔ parts false t ≠ [t]) ∧
      (isList t = true ↔ 2 ≤ (parts false t).length) := by
  refine ⟨?_, ?_, ?_⟩
  · intro t items
    constructor
    · rintro rfl
      exact exists_divided t
    · rintro ⟨n, divided⟩
      exact divided.split_eq
  · intro items
    refine ⟨fun split => ?_, Divided.split_eq⟩
    obtain ⟨n, divided⟩ := exists_divided (join items)
    rw [split] at divided
    -- Commas behind the items would make the text longer than their join.
    have zero : n = 0 := by simpa using divided.joined
    rwa [zero] at divided
  · intro t
    refine ⟨isList_iff, ?_, two_le_length_parts_iff.symm⟩
    rw [Ne, parts_eq_singleton_iff, Bool.not_eq_false]

end Criteria.Commas
