import Criteria.Proofs.Text.Joining
import Criteria.Value.Commas
import Mathlib.Data.List.DropRight
import Mathlib.Data.List.Induction

/-!
# Comma lists, taken apart and put together

A text is the join of its parts, and separated parts are what their join is split into. Escaping
leaves no bare comma, and on texts without one it is the inverse of taking the escapes back.
-/

namespace Criteria.Commas
set_option autoImplicit false

/-- Whether a backslash stands at the end of the text, or before it if the text is empty. -/
def trailing (escaped : Bool) : Text → Bool
  | [] => escaped
  | c :: t => trailing (c == '\\') t

theorem trailing_eq (escaped : Bool) (t : Text) :
    trailing escaped t = (t.getLast?.map (· == '\\')).getD escaped := by
  induction t generalizing escaped with
  | nil => rfl
  | cons c t ih =>
    rw [trailing, ih, List.getLast?_cons]
    cases t.getLast? <;> rfl

theorem trailing_eq_false_iff {t : Text} : trailing false t = false ↔ t.getLast? ≠ some '\\' := by
  rw [trailing_eq]
  cases t.getLast? <;> simp

theorem trailing_eq_false {t : Text} (h : '\\' ∉ t) : trailing false t = false :=
  trailing_eq_false_iff.2 fun last => h (List.mem_of_getLast? last)

/-- Parts that can stand between bare commas: none has a bare comma of its own, and none but the
last ends in a backslash. -/
inductive Separated : Bool → List Text → Prop where
  | last {escaped : Bool} {p : Text} (bare : hasBare escaped p = false) : Separated escaped [p]
  | more {escaped : Bool} {p : Text} {ps : List Text} (bare : hasBare escaped p = false)
      (closed : trailing escaped p = false) (rest : Separated false ps) :
      Separated escaped (p :: ps)

theorem Separated.ne_nil {escaped : Bool} {ps : List Text} (h : Separated escaped ps) :
    ps ≠ [] := by
  cases h <;> exact List.cons_ne_nil _ _

theorem Separated.isList_of_mem {ps : List Text} (h : Separated false ps) :
    ∀ p ∈ ps, isList p = false := by
  intro p mem
  induction ps with
  | nil => cases mem
  | cons q ps ih =>
    cases h with
    | last bare =>
      rw [List.mem_singleton.1 mem]
      exact bare
    | more bare _ rest =>
      rcases List.mem_cons.1 mem with rfl | mem
      · exact bare
      · exact ih rest mem

/-! ## Joining -/

theorem join_singleton (p : Text) : join [p] = p := List.intercalate_singleton

theorem join_append {ps qs : List Text} (hp : ps ≠ []) (hq : qs ≠ []) :
    join (ps ++ qs) = join ps ++ ',' :: join qs := intercalate_append hp hq

theorem join_cons {p : Text} {ps : List Text} (h : ps ≠ []) :
    join (p :: ps) = p ++ ',' :: join ps := by
  rw [← List.singleton_append, join_append (List.cons_ne_nil _ _) h, join_singleton]

theorem hasBare_append (escaped : Bool) (t u : Text) :
    hasBare escaped (t ++ u) = (hasBare escaped t || hasBare (trailing escaped t) u) := by
  induction t generalizing escaped with
  | nil => rfl
  | cons c t ih => simp [hasBare, trailing, ih, Bool.or_assoc]

theorem hasBare_cons_of_ne {c : Char} (h : c ≠ '\\') (escaped : Bool) (t : Text) :
    hasBare escaped (c :: t) = (c == ',' && !escaped || hasBare false t) := by
  rw [hasBare, beq_eq_false_iff_ne.2 h]

theorem hasBare_iff {escaped : Bool} {t : Text} :
    hasBare escaped t = true ↔
      ∃ before after, t = before ++ ',' :: after ∧ trailing escaped before = false := by
  constructor
  · intro h
    induction t generalizing escaped with
    | nil => cases h
    | cons c t ih =>
      simp only [hasBare, Bool.or_eq_true, Bool.and_eq_true, beq_iff_eq, Bool.not_eq_true'] at h
      rcases h with ⟨rfl, closed⟩ | tail
      · exact ⟨[], t, rfl, closed⟩
      · obtain ⟨before, after, rfl, closed⟩ := ih tail
        exact ⟨c :: before, after, rfl, closed⟩
  · rintro ⟨before, after, rfl, closed⟩
    rw [hasBare_append, closed]
    simp [hasBare]

theorem mem_of_hasBare {escaped : Bool} {t : Text} (h : hasBare escaped t = true) : ',' ∈ t := by
  obtain ⟨before, after, rfl, -⟩ := hasBare_iff.1 h
  simp

/-- A comma in the text with no backslash right before it. -/
def HasBareComma (t : Text) : Prop :=
  ∃ before after, t = before ++ ',' :: after ∧ before.getLast? ≠ some '\\'

theorem isList_iff {t : Text} : isList t = true ↔ HasBareComma t := by
  simp only [isList, hasBare_iff, trailing_eq_false_iff, HasBareComma]

theorem isList_eq_false_iff {t : Text} : isList t = false ↔ ¬ HasBareComma t := by
  rw [← isList_iff, Bool.not_eq_true]

/-- Without backslashes every comma is bare. -/
theorem isList_of_mem {t : Text} (comma : ',' ∈ t) (backslash : '\\' ∉ t) : isList t = true := by
  obtain ⟨before, after, rfl⟩ := List.append_of_mem comma
  refine isList_iff.2 ⟨before, after, rfl, fun last => backslash ?_⟩
  exact List.mem_append_left _ (List.mem_of_getLast? last)

theorem isList_eq_false {t : Text} (h : ',' ∉ t) : isList t = false := by
  rw [← Bool.not_eq_true]
  exact mt mem_of_hasBare h

/-- A join of two parts or more is a list. -/
theorem Separated.isList_join {ps : List Text} (h : Separated false ps) (plural : 2 ≤ ps.length) :
    isList (join ps) = true := by
  cases h with
  | last _ => simp at plural
  | more _ closed rest => exact hasBare_iff.2 ⟨_, _, join_cons rest.ne_nil, closed⟩

/-! ## Taking apart -/

theorem parts_ne_nil (escaped : Bool) (t : Text) : parts escaped t ≠ [] := by
  cases t with
  | nil => exact List.cons_ne_nil _ _
  | cons c t =>
    rw [parts]
    split
    · exact List.cons_ne_nil _ _
    · split <;> exact List.cons_ne_nil _ _

/-- A character that separates nothing belongs to the first part. -/
theorem parts_cons {escaped : Bool} {c : Char} (h : (c == ',' && !escaped) = false) (t : Text) :
    ∃ first others, parts (c == '\\') t = first :: others ∧
      parts escaped (c :: t) = (c :: first) :: others := by
  cases eq : parts (c == '\\') t with
  | nil => exact absurd eq (parts_ne_nil _ _)
  | cons first others =>
    refine ⟨first, others, rfl, ?_⟩
    rw [parts, if_neg (by simp [h]), eq]

theorem parts_of_bare {escaped : Bool} {t : Text} (h : hasBare escaped t = false) :
    parts escaped t = [t] := by
  induction t generalizing escaped with
  | nil => rfl
  | cons c t ih =>
    simp only [hasBare, Bool.or_eq_false_iff] at h
    obtain ⟨first, others, eq, eq'⟩ := parts_cons h.1 t
    rw [ih h.2] at eq
    cases eq
    exact eq'

/-- A text is taken apart at any bare comma in it. -/
theorem parts_append {escaped : Bool} {t : Text} (closed : trailing escaped t = false) (u : Text) :
    parts escaped (t ++ ',' :: u) = parts escaped t ++ parts false u := by
  induction t generalizing escaped with
  | nil =>
    cases closed
    rfl
  | cons c t ih =>
    have tail : parts (c == '\\') (t ++ ',' :: u) = parts (c == '\\') t ++ parts false u := ih closed
    by_cases h : (c == ',' && !escaped) = true
    · obtain ⟨rfl, rfl⟩ : c = ',' ∧ escaped = false := by simpa using h
      exact congrArg ([] :: ·) tail
    · rw [Bool.not_eq_true] at h
      obtain ⟨first, others, eq, eq'⟩ := parts_cons h t
      obtain ⟨first', others', whole, whole'⟩ := parts_cons h (t ++ ',' :: u)
      rw [tail, eq] at whole
      cases whole
      rw [List.cons_append, whole', eq']
      rfl

theorem parts_append_comma {escaped : Bool} {p : Text} (bare : hasBare escaped p = false)
    (closed : trailing escaped p = false) (t : Text) :
    parts escaped (p ++ ',' :: t) = p :: parts false t := by
  rw [parts_append closed, parts_of_bare bare]
  rfl

/-- Separated parts are what their join is taken apart into. -/
theorem parts_join {escaped : Bool} {ps : List Text} (h : Separated escaped ps) :
    parts escaped (join ps) = ps := by
  induction h with
  | last bare => rw [join_singleton, parts_of_bare bare]
  | more bare closed rest ih => rw [join_cons rest.ne_nil, parts_append_comma bare closed, ih]

/-- The parts of a text are separated, and their join is the text. -/
theorem separated_parts (escaped : Bool) (t : Text) :
    Separated escaped (parts escaped t) ∧ join (parts escaped t) = t := by
  induction t generalizing escaped with
  | nil => exact ⟨.last rfl, rfl⟩
  | cons c t ih =>
    by_cases h : (c == ',' && !escaped) = true
    · obtain ⟨rfl, rfl⟩ : c = ',' ∧ escaped = false := by simpa using h
      obtain ⟨rest, eq⟩ := ih false
      refine ⟨.more rfl rfl rest, ?_⟩
      show join ([] :: parts false t) = ',' :: t
      rw [join_cons (parts_ne_nil _ _), eq]
      rfl
    · rw [Bool.not_eq_true] at h
      obtain ⟨first, others, eq, eq'⟩ := parts_cons h t
      have tail := ih (c == '\\')
      rw [eq] at tail
      rw [eq']
      obtain ⟨rest, joined⟩ := tail
      cases rest with
      | last bare =>
        rw [join_singleton] at joined
        refine ⟨.last (by simp [hasBare, h, bare]), ?_⟩
        rw [join_singleton, joined]
      | more bare closed rest =>
        rw [join_cons rest.ne_nil] at joined
        refine ⟨.more (by simp [hasBare, h, bare]) closed rest, ?_⟩
        rw [join_cons rest.ne_nil, List.cons_append, joined]

/-! ## Items -/

theorem split_eq_rdropWhile (t : Text) : split t = (parts false t).rdropWhile List.isEmpty := rfl

theorem Separated.isPrefix {escaped : Bool} {ps qs : List Text} (h : Separated escaped ps)
    (sub : qs <+: ps) (ne : qs ≠ []) : Separated escaped qs := by
  induction h generalizing qs with
  | @last escaped p bare =>
    obtain rfl : qs = [p] := by
      rcases List.prefix_cons_iff.1 sub with rfl | ⟨t, rfl, nil⟩
      · exact absurd rfl ne
      · rw [List.prefix_nil.1 nil]
    exact .last bare
  | more bare closed rest ih =>
    rcases List.prefix_cons_iff.1 sub with rfl | ⟨t, rfl, tail⟩
    · exact absurd rfl ne
    · cases t with
      | nil => exact .last bare
      | cons q t => exact .more bare closed (ih tail (List.cons_ne_nil _ _))

/-- The items of a text are separated, and the last one is not empty. -/
theorem separated_split {t : Text} (ne : split t ≠ []) :
    Separated false (split t) ∧ ∀ h : split t ≠ [], (split t).getLast h ≠ [] := by
  constructor
  · exact (separated_parts false t).1.isPrefix (List.rdropWhile_prefix _ _) ne
  · intro h nil
    apply List.rdropWhile_last_not _ _ h
    rw [List.isEmpty_iff]
    exact nil

/-- Separated items, the last one not empty, are what their join is split into. -/
theorem split_join {ps : List Text} (h : Separated false ps)
    (last : ∀ ne : ps ≠ [], ps.getLast ne ≠ []) : split (join ps) = ps := by
  rw [split_eq_rdropWhile, parts_join h, List.rdropWhile_eq_self_iff]
  intro ne empty
  exact last ne (List.isEmpty_iff.1 empty)

/-- A text without bare commas is its only item, unless it is empty. -/
theorem split_of_bare {t : Text} (bare : isList t = false) (ne : t ≠ []) : split t = [t] := by
  have split := split_join (.last bare) fun _ => ne
  rwa [join_singleton] at split

/-- A bare comma at the end adds an empty part, which is no item. -/
theorem split_append_comma {t : Text} (closed : t.getLast? ≠ some '\\') :
    split (t ++ [',']) = split t := by
  rw [split_eq_rdropWhile, parts_append (trailing_eq_false_iff.2 closed), parts,
    List.rdropWhile_concat_pos _ _ _ rfl, ← split_eq_rdropWhile]

theorem isList_of_mem_split {t p : Text} (mem : p ∈ split t) : isList p = false :=
  (separated_split (List.ne_nil_of_mem mem)).1.isList_of_mem p mem

/-! ## Escapes -/

theorem unescape_cons {c : Char} {t : Text} (h : c = '\\' → t.head? ≠ some ',') :
    unescape (c :: t) = c :: unescape t := by
  rw [unescape]
  intro rest backslash comma
  exact h backslash (by rw [comma]; rfl)

theorem escape_cons (c : Char) (t : Text) :
    escape (c :: t) = (if c == ',' then ['\\', ','] else [c]) ++ escape t := by
  rw [escape, List.flatMap_cons, escape]

/-- On a text without bare commas, escaping brings back what was taken away. -/
theorem escape_unescape {t : Text} (h : isList t = false) : escape (unescape t) = t := by
  unfold isList at h
  induction t using unescape.induct with
  | case1 t ih =>
    have bare : hasBare false t = false := by simpa [hasBare] using h
    rw [unescape, escape_cons, ih bare]
    rfl
  | case2 c t plain ih =>
    have head : c = '\\' → t.head? ≠ some ',' := by
      intro eq head
      cases t with
      | nil => cases head
      | cons d t =>
        cases head
        exact plain t eq rfl
    have bare : hasBare false t = false := by
      by_cases eq : c = '\\'
      · cases t with
        | nil => rfl
        | cons d t =>
          have other : d ≠ ',' := fun comma => head eq (by rw [comma]; rfl)
          simpa [hasBare, eq, other] using h
      · rw [hasBare_cons_of_ne eq, Bool.or_eq_false_iff] at h
        exact h.2
    have comma : c ≠ ',' := by
      rintro rfl
      simp [hasBare] at h
    rw [unescape_cons head, escape_cons, ih bare]
    simp [comma]
  | case3 => rfl

/-- An escaped text has no bare comma. -/
theorem hasBare_escape (escaped : Bool) (t : Text) : hasBare escaped (escape t) = false := by
  induction t generalizing escaped with
  | nil => rfl
  | cons c t ih =>
    rw [escape_cons]
    by_cases h : c = ','
    · simp [h, hasBare, ih]
    · simp [h, hasBare, ih]

/-- Escaping is undone exactly. -/
theorem unescape_escape (t : Text) : unescape (escape t) = t := by
  induction t with
  | nil => rfl
  | cons c t ih =>
    rw [escape_cons]
    by_cases h : c = ','
    · subst h
      show ',' :: unescape (escape t) = ',' :: t
      rw [ih]
    · have head : (escape t).head? ≠ some ',' := by
        cases t with
        | nil => exact Option.some_ne_none _ ∘ Eq.symm
        | cons d t =>
          rw [escape_cons]
          by_cases comma : d = ',' <;> simp [comma]
      simp only [beq_iff_eq, h, if_false, List.singleton_append]
      rw [unescape_cons fun _ => head, ih]

theorem escape_ne_nil {t : Text} (h : t ≠ []) : escape t ≠ [] := by
  intro nil
  have back := unescape_escape t
  rw [nil] at back
  exact h back.symm

theorem getLast?_escape (t : Text) : (escape t).getLast? = t.getLast? := by
  induction t using List.reverseRecOn with
  | nil => rfl
  | append_singleton t c _ =>
    rw [escape, List.flatMap_append, List.flatMap_singleton, List.getLast?_append,
      List.getLast?_append]
    by_cases h : c = ',' <;> simp [h]

theorem length_escape (t : Text) : (escape t).length = t.length + t.count ',' := by
  induction t with
  | nil => rfl
  | cons c t ih =>
    rw [escape_cons, List.length_append, ih, List.count_cons, List.length_cons]
    by_cases h : c = ','
    · simp only [h, beq_self_eq_true, if_true, List.length_cons, List.length_nil]
      omega
    · simp only [h, beq_iff_eq, if_false, List.length_cons, List.length_nil]
      omega

theorem escape_eq_self_iff {t : Text} : escape t = t ↔ ',' ∉ t := by
  constructor
  · intro h
    have length := length_escape t
    rw [h] at length
    exact List.count_eq_zero.1 (by omega)
  · intro h
    induction t with
    | nil => rfl
    | cons c t ih =>
      have head : c ≠ ',' := fun eq => h (by simp [eq])
      rw [escape_cons, ih fun mem => h (List.mem_cons_of_mem _ mem)]
      simp [head]

/-- A text without bare commas stands for itself exactly if it has no escaped comma either. -/
theorem unescape_eq_self_iff {t : Text} (bare : isList t = false) : unescape t = t ↔ ',' ∉ t := by
  rw [← escape_eq_self_iff]
  constructor
  · intro h
    rw [← h, escape_unescape bare, h]
  · intro h
    rw [← h, unescape_escape, h]

end Criteria.Commas
