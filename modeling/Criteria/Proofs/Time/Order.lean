import Criteria.Proofs.Time.Shape
import Mathlib.Data.List.Lex

/-!
# The order of timestamps

Rows of digits of one width are in the order of their numbers, and the numbers in a timestamp stand in
the order of their weight. So timestamps with years of four digits are in the order of time.
-/

namespace Criteria
set_option autoImplicit false

/-! ## Texts of one length -/

theorem append_lt_append_iff {u v x y : Text} (length : u.length = v.length) :
    u ++ x < v ++ y ↔ u < v ∨ u = v ∧ x < y := by
  induction u generalizing v with
  | nil =>
    obtain rfl := List.eq_nil_of_length_eq_zero length.symm
    simp
  | cons c u ih =>
    cases v with
    | nil => cases length
    | cons d v =>
      simp only [List.cons_append, List.cons_lt_cons_iff, List.cons.injEq,
        ih (Nat.succ.inj length)]
      tauto

namespace Timestamp

theorem length_padded {width n : Nat} (h : n < 10 ^ (width + 1)) :
    (padded (width + 1) n).length = width + 1 := by
  have short := (Nat.length_toDigits_le_iff (by decide) (Nat.succ_pos width)).2 h
  rw [padded, List.length_append, List.length_replicate]
  omega

theorem digitChar_lt {n m : Nat} (lt : n < m) (h : m < 10) : n.digitChar < m.digitChar := by
  have small := Nat.toNat_digitChar_of_lt_ten (show n < 10 by omega)
  have large := Nat.toNat_digitChar_of_lt_ten h
  show n.digitChar.toNat < m.digitChar.toNat
  omega

theorem padded_lt {width n m : Nat} (lt : n < m) (h : m < 10 ^ (width + 1)) :
    padded (width + 1) n < padded (width + 1) m := by
  induction width generalizing n m with
  | zero =>
    rw [padded_one (by omega), padded_one (by omega), List.cons_lt_cons_iff]
    exact Or.inl (digitChar_lt lt (by omega))
  | succ width ih =>
    have tens : m / 10 < 10 ^ (width + 1) := by
      rw [Nat.pow_succ] at h
      omega
    rw [padded_succ, padded_succ, append_lt_append_iff
      ((length_padded (by omega)).trans (length_padded tens).symm)]
    by_cases same : n / 10 = m / 10
    · refine Or.inr ⟨by rw [same], ?_⟩
      rw [List.cons_lt_cons_iff]
      exact Or.inl (digitChar_lt (by omega) (by omega))
    · exact Or.inl (ih (by omega) tens)

/-- Rows before a mark: the greater number decides, or else what stands behind the mark. -/
theorem row_lt_iff {width n m : Nat} (hn : n < 10 ^ (width + 1)) (hm : m < 10 ^ (width + 1))
    (mark : Char) {x y : Text} :
    padded (width + 1) n ++ mark :: x < padded (width + 1) m ++ mark :: y ↔
      n < m ∨ n = m ∧ x < y := by
  rw [append_lt_append_iff ((length_padded hn).trans (length_padded hm).symm),
    List.cons_lt_cons_iff]
  rcases Nat.lt_trichotomy n m with lt | rfl | gt
  · exact iff_of_true (Or.inl (padded_lt lt hm)) (Or.inl lt)
  · simp only [List.lt_irrefl, Nat.lt_irrefl, Char.lt_irrefl, true_and, false_or]
  · have order := padded_lt gt hn
    have ne : padded (width + 1) n ≠ padded (width + 1) m := by
      intro eq
      rw [eq] at order
      exact List.lt_irrefl _ order
    exact iff_of_false (by simp [List.lt_asymm order, ne]) (by omega)

namespace Fields

/-- The numbers from the year to the thousandths. -/
def numbers (f : Fields) : List Nat :=
  [f.year, f.month, f.day, f.hour, f.minute, f.second, f.milli]

theorem spell_lt_iff {f g : Fields} (hf : f.Fits) (hg : g.Fits) :
    f.spell < g.spell ↔ f.numbers < g.numbers := by
  rw [spell, spell, row_lt_iff hf.year hg.year, row_lt_iff hf.month hg.month,
    row_lt_iff hf.day hg.day, row_lt_iff hf.hour hg.hour, row_lt_iff hf.minute hg.minute,
    row_lt_iff hf.second hg.second, row_lt_iff hf.milli hg.milli]
  simp only [numbers, List.cons_lt_cons_iff, List.not_lt_nil]

theorem numbers_injective {f g : Fields} (same : f.numbers = g.numbers) : f = g := by
  obtain ⟨_, _, _, _, _, _, _⟩ := f
  simp only [numbers, List.cons.injEq, and_true] at same
  obtain ⟨rfl, rfl, rfl, rfl, rfl, rfl, rfl⟩ := same
  rfl

end Fields

end Timestamp

/-! ## Times and timestamps -/

/-- The texts are in the order of the two numbers. -/
structure SameOrder (x y : Text) (m n : Int) : Prop where
  lt_iff : x < y ↔ m < n
  eq_iff : x = y ↔ m = n
  gt_iff : y < x ↔ n < m

namespace SameOrder

variable {x y : Text} {m n : Int}

theorem of_lt (texts : x < y) (numbers : m < n) : SameOrder x y m n where
  lt_iff := iff_of_true texts numbers
  eq_iff := by
    refine iff_of_false ?_ (Int.ne_of_lt numbers)
    rintro rfl
    exact List.lt_irrefl _ texts
  gt_iff := iff_of_false (List.lt_asymm texts) (Int.lt_asymm numbers)

theorem of_eq (texts : x = y) (numbers : m = n) : SameOrder x y m n := by
  subst texts numbers
  exact ⟨iff_of_false (List.lt_irrefl x) (Int.lt_irrefl m), iff_of_true rfl rfl,
    iff_of_false (List.lt_irrefl x) (Int.lt_irrefl m)⟩

theorem swap (h : SameOrder x y m n) : SameOrder y x n m :=
  ⟨h.gt_iff, eq_comm.trans (h.eq_iff.trans eq_comm), h.lt_iff⟩

end SameOrder

namespace Timestamp

/-- Of two times with different numbers, the one with the smaller ones is in an earlier
millisecond. -/
theorem millis_lt {t u : DateTime}
    (earlier : (Fields.ofDateTime t).numbers < (Fields.ofDateTime u).numbers) :
    t.micros / 1000 < u.micros / 1000 := by
  have time := t.time.micros_lt
  have time' := u.time.micros_lt
  simp only [Fields.numbers, Fields.ofDateTime, List.cons_lt_cons_iff, List.not_lt_nil, and_false,
    or_false] at earlier
  simp only [DateTime.micros, microsPerDay] at *
  by_cases day : t.date.dayNumber < u.date.dayNumber
  · omega
  · -- On the same day the times of day are in the order of their numbers.
    have notLater := mt Date.dayNumber_lt day
    have same : t.date = u.date := by
      apply Date.eq_of_parts
      omega
    rw [same]
    simp only [TimeOfDay.micros]
    have minute := t.time.minute_lt
    have second := t.time.second_lt
    have micro := t.time.micro_lt
    omega

variable {t u : DateTime}

theorem write_sameOrder_of_lt (late : 1000 ≤ t.date.year) (late' : 1000 ≤ u.date.year)
    (earlier : (Fields.ofDateTime t).numbers < (Fields.ofDateTime u).numbers) :
    SameOrder (write t) (write u) ((Moment.utc t).instant / 1000)
      ((Moment.utc u).instant / 1000) := by
  have millis := millis_lt earlier
  apply SameOrder.of_lt
  · rw [write_eq_spell late, write_eq_spell late']
    exact (Fields.spell_lt_iff (Fields.fits_ofDateTime t) (Fields.fits_ofDateTime u)).2 earlier
  · rw [Moment.instant_utc, Moment.instant_utc]
    omega

/-- Timestamps with years of four digits are in the order of their milliseconds. -/
theorem write_sameOrder (late : 1000 ≤ t.date.year) (late' : 1000 ≤ u.date.year) :
    SameOrder (write t) (write u) ((Moment.utc t).instant / 1000)
      ((Moment.utc u).instant / 1000) := by
  rcases lt_trichotomy (Fields.ofDateTime t).numbers (Fields.ofDateTime u).numbers with
    earlier | same | later
  · exact write_sameOrder_of_lt late late' earlier
  · have texts : write t = write u := by
      rw [write_eq_spell late, write_eq_spell late', Fields.numbers_injective same]
    -- One text is read as one time only, so the milliseconds are the same.
    have read := read?_write_eq_toMilli late
    rw [texts, read?_write_eq_toMilli late', Option.some.injEq] at read
    have millis := t.micros_toMilli
    rw [← read, u.micros_toMilli] at millis
    apply SameOrder.of_eq texts
    rw [Moment.instant_utc, Moment.instant_utc]
    omega
  · exact (write_sameOrder_of_lt late' late later).swap

end Timestamp

end Criteria
