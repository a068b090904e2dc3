import Criteria.Proofs.Number.Writing
import Criteria.Proofs.Value.Rules
import Criteria.Proofs.Value.Writing

/-!
# Values that are read back from what is written

What a text means is written as a canonical text, and the canonical text is read as the same value.
There are two exceptions. A list of fewer than two items has no comma between items, so it is not
read as a list. A moment before the year 1000 has too short a timestamp, so it is read as a text.
-/

namespace Criteria
set_option autoImplicit false

/-- Whether a scalar is a moment whose year has fewer than four digits. -/
def Scalar.isEarly : Scalar → Bool
  | .moment m => m.wall.date.year < 1000
  | _ => false

/-- Values that are the same after they are written and read. -/
structure Value.Stable (v : Value) : Prop where
  /-- The value is no list of fewer than two items. -/
  plural : ∀ items, v = .list items → 2 ≤ items.length
  /-- The value is no early moment, and no item of it is one. -/
  late : ∀ a, (v = .scalar a ∨ ∃ items, v = .list items ∧ .scalar a ∈ items) → a.isEarly = false

/-- What an item of a list keeps when `w` is written for `t`. -/
structure Kept (t w : Text) : Prop where
  bare : Commas.isList w = false
  closed : Commas.trailing false t = false → Commas.trailing false w = false
  nonempty : t ≠ [] → w ≠ []

theorem Kept.of_plain {t w : Text} (ne : w ≠ []) (comma : ',' ∉ w) (backslash : '\\' ∉ w) :
    Kept t w where
  bare := Commas.isList_eq_false comma
  closed _ := Commas.trailing_eq_false backslash
  nonempty _ := ne

/-! ## Written moments -/

namespace Timestamp

theorem mem_padded {width n : Nat} {c : Char} (h : c ∈ padded width n) : c.isDigit = true := by
  rcases List.mem_append.1 h with zero | digit
  · rw [List.eq_of_mem_replicate zero]
    rfl
  · exact isDigit_of_mem_toDigits c digit

/-- A timestamp has digits and five kinds of marks. -/
theorem mem_write {d : DateTime} {c : Char} (h : c ∈ write d) :
    c.isDigit = true ∨ c ∈ ['-', 'T', ':', '.', 'Z'] := by
  simp only [write, List.mem_append, List.mem_cons, List.not_mem_nil, or_false] at h
  have year (mem : c ∈ Nat.toDigits 10 d.date.year) : c.isDigit = true :=
    isDigit_of_mem_toDigits c mem
  have field {width n : Nat} (mem : c ∈ padded width n) : c.isDigit = true := mem_padded mem
  simp only [List.mem_cons, List.not_mem_nil, or_false]
  grind

theorem mem_write_mark (d : DateTime) : 'T' ∈ write d := by simp [write]

theorem mem_write_dash (d : DateTime) : '-' ∈ write d := by simp [write]

/-- A timestamp is an item of its own. -/
theorem kept_write (t : Text) (d : DateTime) : Kept t (write d) := by
  have other (c : Char) (digit : c.isDigit = false) (mark : c ∉ ['-', 'T', ':', '.', 'Z']) :
      c ∉ write d := by
    intro mem
    rcases mem_write mem with isDigit | isMark
    · rw [digit] at isDigit
      cases isDigit
    · exact mark isMark
  exact .of_plain (List.ne_nil_of_mem (mem_write_mark d)) (other _ rfl (by decide))
    (other _ rfl (by decide))

end Timestamp

/-! ## Scalars -/

section Scalars

variable {s : Separators}

theorem readable_of_bare (short : s.decimal.length ≤ 1) {t : Text} {n : Number}
    (numeric : looksNumeric t = true) (bare : Commas.isList t = false)
    (read : readNumber s t = some n) : n.Readable s := by
  apply readable_of_readNumber short numeric _ read
  intro comma
  rw [Commas.isList_of_mem comma (not_mem_of_looksNumeric numeric)] at bare
  cases bare

theorem readScalar_moment {t : Text} (mark : 'T' ∈ t) (dash : '-' ∈ t) :
    readScalar s t =
      ((Timestamp.read? t).map fun time => Scalar.moment (.utc time)).getD
        (.text (Commas.unescape t)) := by
  obtain ⟨named, noWord⟩ := not_word isCaseless_hyphen (by decide) dash
  cases time : Timestamp.read? t with
  | some d => exact (readScalar_eq_moment_iff named).2 (by rw [time, Option.map_some])
  | none =>
    have noNumber := looksNumeric_of_mem mark (by decide) (by decide)
    refine (readScalar_eq_text_iff named).2 ⟨rfl, untaken_iff.2 ⟨noWord, time, fun numeric => ?_⟩⟩
    rw [noNumber] at numeric
    cases numeric

section Rereading

variable (grouping : ∀ c ∈ s.grouping, c.isDigit = false)
include grouping

theorem readScalar_number {n : Number} (h : n.Readable s) :
    readScalar s n.write = .number n.plain :=
  readScalar_eq_number_iff.2 ⟨Number.looksNumeric_write h, Number.readNumber_write grouping h⟩

variable (short : s.decimal.length ≤ 1)
include short

/-- **What a text without bare commas means is read back**, unless it is an early moment. -/
theorem Scalar.ReadFrom.reread {t : Text} {a : Scalar} (h : a.ReadFrom s t)
    (bare : Commas.isList t = false) :
    ∃ w, a.write = .ok w ∧ Kept t w ∧ (readScalar s w).same a = !a.isEarly := by
  cases h with
  | null => exact ⟨_, rfl, .of_plain (by decide) (by decide) (by decide), by rfl⟩
  | @bool b read =>
    cases b with
    | true => exact ⟨_, rfl, .of_plain (by decide) (by decide) (by decide), by rfl⟩
    | false => exact ⟨_, rfl, .of_plain (by decide) (by decide) (by decide), by rfl⟩
  | @moment d read =>
    refine ⟨Timestamp.write d, ?_, Timestamp.kept_write t d, ?_⟩
    · rw [write, Moment.toUtc?_utc]
    · rw [readScalar_moment (Timestamp.mem_write_mark d) (Timestamp.mem_write_dash d)]
      by_cases early : d.date.year < 1000
      · rw [Timestamp.read?_write_of_early early]
        simp [same, number?, isEarly, Moment.utc, early]
      · rw [Timestamp.read?_write (Nat.not_lt.1 early) (Timestamp.micro_of_read? read)]
        simp [same, number?, isEarly, Moment.utc, Moment.same, early]
  | @number n numeric read =>
    have readable := readable_of_bare short numeric bare read
    obtain ⟨ne, comma, backslash⟩ := n.write_plain_text
    refine ⟨n.write, rfl, .of_plain ne comma backslash, ?_⟩
    rw [readScalar_number grouping readable]
    exact Number.same_plain readable
  | text self =>
    refine ⟨t, ?_, ⟨bare, id, id⟩, ?_⟩
    · rw [write, Commas.escape_unescape bare]
    · rw [self]
      exact beq_self_eq_true _

end Rereading

end Scalars

/-! ## Lists -/

namespace Commas.Separated

/-- The parts are still separated if each of them is kept. -/
theorem map {ps : List Text} {f : Text → Text} (h : Separated false ps)
    (kept : ∀ p ∈ ps, Kept p (f p)) : Separated false (ps.map f) := by
  induction ps with
  | nil => cases h
  | cons p ps ih =>
    have head := kept p List.mem_cons_self
    cases h with
    | last _ => exact .last head.bare
    | more _ closed rest =>
      exact .more head.bare (head.closed closed)
        (ih rest fun q mem => kept q (List.mem_cons_of_mem _ mem))

end Commas.Separated

namespace Value

theorem sameAll_iff {as bs : List Value} :
    sameAll as bs = true ↔ List.Forall₂ (fun a b => a.same b = true) as bs := by
  induction as generalizing bs with
  | nil => cases bs <;> simp [sameAll]
  | cons a as ih =>
    cases bs with
    | nil => simp [sameAll]
    | cons b bs => rw [sameAll, Bool.and_eq_true, ih, List.forall₂_cons]

theorem sameAll_map (f g : Text → Value) (ps : List Text) :
    sameAll (ps.map f) (ps.map g) = ps.all fun p => (f p).same (g p) := by
  rw [Bool.eq_iff_iff, sameAll_iff, List.forall₂_map_left_iff, List.forall₂_map_right_iff,
    List.forall₂_same, List.all_eq_true]

theorem stable_scalar_iff {a : Scalar} : (scalar a).Stable ↔ a.isEarly = false := by
  constructor
  · intro h
    exact h.late a (Or.inl rfl)
  · intro h
    constructor
    · intro items eq
      cases eq
    · rintro b (eq | ⟨items, eq, -⟩)
      · cases eq
        exact h
      · cases eq

theorem stable_list_iff {items : List Value} :
    (list items).Stable ↔ 2 ≤ items.length ∧ ∀ a, .scalar a ∈ items → a.isEarly = false := by
  constructor
  · intro h
    constructor
    · exact h.plural items rfl
    · intro a mem
      exact h.late a (Or.inr ⟨items, rfl, mem⟩)
  · rintro ⟨plural, late⟩
    constructor
    · intro others eq
      cases eq
      exact plural
    · rintro b (eq | ⟨others, eq, mem⟩)
      · cases eq
      · cases eq
        exact late b mem

end Value

/-! ## Values -/

section Values

variable {s : Separators} (grouping : ∀ c ∈ s.grouping, c.isDigit = false)
  (short : s.decimal.length ≤ 1)
include grouping short

theorem canonical_reread {t : Text} (bare : Commas.isList t = false) :
    Kept t (canonical s t) ∧
      (readScalar s (canonical s t)).same (readScalar s t) = !(readScalar s t).isEarly := by
  obtain ⟨w, written, kept, reread⟩ := (readFrom_readScalar s t).reread grouping short bare
  cases written.symm.trans (write_readScalar s t)
  exact ⟨kept, reread⟩

theorem same_reread_of_bare {t : Text} (bare : Commas.isList t = false) :
    ∃ w, (readValue s (some t)).write = .ok w ∧
      ((readValue s (some w)).same (readValue s (some t)) = true ↔
        (readValue s (some t)).Stable) := by
  obtain ⟨kept, reread⟩ := canonical_reread grouping short bare
  refine ⟨canonical s t, write_readValue_of_bare bare, ?_⟩
  rw [readValue_of_bare s bare, readValue_of_bare s kept.bare, Value.stable_scalar_iff, Value.same,
    reread]
  exact Bool.not_eq_eq_eq_not

/-- A list of two items or more is read back item by item. -/
theorem readValue_join {ps : List Text} (plural : 2 ≤ ps.length)
    (separated : Commas.Separated false ps) (last : ∀ ne : ps ≠ [], ps.getLast ne ≠ []) :
    readValue s (some (Commas.join (ps.map (canonical s)))) =
      .list (ps.map fun p => .scalar (readScalar s (canonical s p))) := by
  have kept (p : Text) (mem : p ∈ ps) : Kept p (canonical s p) :=
    (canonical_reread grouping short (separated.isList_of_mem p mem)).1
  have written := separated.map kept
  have joined : Commas.isList (Commas.join (ps.map (canonical s))) = true :=
    written.isList_join (by rwa [List.length_map])
  have split : Commas.split (Commas.join (ps.map (canonical s))) = ps.map (canonical s) := by
    apply Commas.split_join written
    intro ne
    rw [List.getLast_map]
    have ne' : ps ≠ [] := fun nil => ne (by rw [nil]; rfl)
    exact (kept _ (List.getLast_mem ne')).nonempty (last ne')
  rw [readValue_of_isList s joined, split, List.map_map]
  rfl

theorem same_reread_of_isList {t : Text} (list : Commas.isList t = true) :
    ∃ w, (readValue s (some t)).write = .ok w ∧
      ((readValue s (some w)).same (readValue s (some t)) = true ↔
        (readValue s (some t)).Stable) := by
  refine ⟨_, write_readValue_of_isList list, ?_⟩
  rw [readValue_of_isList s list, Value.stable_list_iff, List.length_map]
  have separated := Commas.separated_split (t := t)
  generalize Commas.split t = ps at separated
  have spec (p : Text) (mem : p ∈ ps) :=
    canonical_reread grouping short ((separated (List.ne_nil_of_mem mem)).1.isList_of_mem p mem)
  by_cases plural : 2 ≤ ps.length
  · have ne : ps ≠ [] := fun nil => by simp [nil] at plural
    rw [readValue_join grouping short plural (separated ne).1 (separated ne).2, Value.same,
      Value.sameAll_map, List.all_eq_true, and_iff_right plural]
    constructor
    · intro same a mem
      obtain ⟨p, item, eq⟩ := List.mem_map.1 mem
      cases eq
      have reread := same p item
      rw [Value.same, (spec p item).2] at reread
      simpa using reread
    · intro late p mem
      rw [Value.same, (spec p mem).2, late _ (List.mem_map.2 ⟨p, mem, rfl⟩)]
      rfl
  · -- What is written for an empty list or a single item has no bare comma.
    have bare : Commas.isList (Commas.join (ps.map (canonical s))) = false := by
      match ps with
      | [] => rfl
      | [p] =>
        rw [List.map_singleton, Commas.join_singleton]
        exact (spec p List.mem_cons_self).1.bare
      | _ :: _ :: _ => exact absurd (by simp) plural
    rw [readValue_of_bare s bare]
    constructor
    · intro same
      cases same
    · intro stable
      exact absurd stable.1 plural

/-- **A value is read back exactly if it is stable.** What a text means can always be written; the
written text means the same value if and only if that value is no list of fewer than two items, no
early moment, and no list with an early moment in it. -/
theorem same_reread_iff_stable (x : Option Text) :
    ∃ w, (readValue s x).write = .ok w ∧
      ((readValue s (some w)).same (readValue s x) = true ↔ (readValue s x).Stable) := by
  cases x with
  | none => exact same_reread_of_bare grouping short (t := "null".toList) (by decide)
  | some t =>
    cases list : Commas.isList t with
    | true => exact same_reread_of_isList grouping short list
    | false => exact same_reread_of_bare grouping short list

end Values

/-- Two items of different kinds, under the usual separators. -/
theorem same_reread_two_items :
    (∀ c ∈ ({} : Separators).grouping, c.isDigit = false) ∧ ({} : Separators).decimal.length ≤ 1 ∧
      ∃ w, (readValue {} (some "a,5".toList)).write = .ok w ∧
        (readValue {} (some w)).same (readValue {} (some "a,5".toList)) = true := by
  have grouping : ∀ c ∈ ({} : Separators).grouping, c.isDigit = false := by
    intro c comma
    rw [List.mem_singleton.1 comma]
    rfl
  have short : ({} : Separators).decimal.length ≤ 1 := by decide
  have items : readValue {} (some "a,5".toList) =
      .list [.scalar (.text ['a']), .scalar (.number (.int 5))] := by rfl
  obtain ⟨w, written, iff⟩ := same_reread_iff_stable grouping short (some "a,5".toList)
  refine ⟨grouping, short, w, written, iff.2 ?_⟩
  rw [items, Value.stable_list_iff]
  constructor
  · decide
  · intro a mem
    simp only [List.mem_cons, Value.scalar.injEq, List.not_mem_nil, or_false] at mem
    rcases mem with rfl | rfl <;> rfl

end Criteria
