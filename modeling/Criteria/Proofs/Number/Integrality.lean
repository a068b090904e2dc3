import Criteria.Proofs.Number.Refusal

/-!
# Integral numbers

A number is read as an integer or as a floating-point number by the look of its fraction, before it
is rounded. So a floating-point number that is read can still be integral: this happens exactly if
the decimal number of all the digits lies within half a unit of the last place of an integer. A
fraction of zeros in another script is the plainest case.
-/

namespace Criteria
set_option autoImplicit false

open Numeral (signed written)

namespace Magnitude

/-- The unit of the last place, for a rational that is rounded to a magnitude. -/
def unit (r : ℚ) : ℚ := 2 ^ max (Int.log 2 r - 52) (-1074)

/-! ## Rounding to the grid -/

section Grid

variable {r : ℚ} {e : Int}

theorem grid_ratio (pos : 0 < r) :
    ((r.num.toNat * 2 ^ (-e).toNat : Nat) : ℚ) * 2 ^ e = r * (r.den * 2 ^ e.toNat : Nat) := by
  push_cast
  rw [cast_toNat_num pos, ← Rat.mul_den_eq_num, ← two_zpow_mul_pow e]
  ring

/-- How far a multiple of the unit is away, read as a comparison of integers. -/
theorem grid_close_iff (pos : 0 < r) (k : Nat) :
    |r - k * 2 ^ e| ≤ 2 ^ e / 2 ↔
      2 * (k * (r.den * 2 ^ e.toNat)) ≤ 2 * (r.num.toNat * 2 ^ (-e).toNat) + r.den * 2 ^ e.toNat ∧
        2 * (r.num.toNat * 2 ^ (-e).toNat) ≤
          2 * (k * (r.den * 2 ^ e.toNat)) + r.den * 2 ^ e.toNat := by
  have ratio := grid_ratio (e := e) pos
  have den_pos : (0 : ℚ) < (r.den * 2 ^ e.toNat : Nat) :=
    Nat.cast_pos.2 (Nat.mul_pos r.den_pos (Nat.two_pow_pos _))
  have step : (0 : ℚ) < 2 ^ e := by positivity
  generalize r.num.toNat * 2 ^ (-e).toNat = n at ratio ⊢
  generalize r.den * 2 ^ e.toNat = den at ratio den_pos ⊢
  generalize (2 : ℚ) ^ e = u at ratio step ⊢
  have low : -(u / 2) ≤ r - k * u ↔ (2 * (k * den) : ℚ) ≤ 2 * n + den :=
    calc -(u / 2) ≤ r - k * u ↔ -(u / 2) * den ≤ (r - k * u) * den :=
          (mul_le_mul_iff_of_pos_right den_pos).symm
      _ ↔ 2 * (k * den) * u ≤ (2 * n + den) * u := by constructor <;> intro le <;> linarith
      _ ↔ (2 * (k * den) : ℚ) ≤ 2 * n + den := mul_le_mul_iff_of_pos_right step
  have high : r - k * u ≤ u / 2 ↔ (2 * n : ℚ) ≤ 2 * (k * den) + den :=
    calc r - k * u ≤ u / 2 ↔ (r - k * u) * den ≤ u / 2 * den :=
          (mul_le_mul_iff_of_pos_right den_pos).symm
      _ ↔ 2 * n * u ≤ (2 * (k * den) + den) * u := by constructor <;> intro le <;> linarith
      _ ↔ (2 * n : ℚ) ≤ 2 * (k * den) + den := mul_le_mul_iff_of_pos_right step
  rw [abs_le, low, high]
  norm_cast

/-- The significand is off by half a unit at most. -/
theorem gridSignificand_error (pos : 0 < r) : |r - gridSignificand r e * 2 ^ e| ≤ 2 ^ e / 2 :=
  (grid_close_iff pos _).2
    (roundHalfEven_error (Nat.mul_pos r.den_pos (Nat.two_pow_pos _)))

/-- An even multiple of the unit that is off by half a unit at most is the one rounded to. -/
theorem gridSignificand_of_even (pos : 0 < r) {k : Nat} (even : k % 2 = 0)
    (close : |r - k * 2 ^ e| ≤ 2 ^ e / 2) : gridSignificand r e = k := by
  obtain ⟨low, high⟩ := (grid_close_iff pos k).1 close
  exact roundHalfEven_of_even (Nat.mul_pos r.den_pos (Nat.two_pow_pos _)) even low high

end Grid

/-! ## Magnitudes that are integers -/

theorem toRat_of_ofParts? {n : Nat} {e : Int} {x : Magnitude} (h : ofParts? n e = some x) :
    x.toRat = n * 2 ^ e := by
  obtain ⟨rfl, rfl⟩ := parts_of_ofParts? h
  exact toRat_eq x

/-- A magnitude that is rounded to is the significand on the grid, carried over or not. -/
theorem toRat_of_ofRat? {r : ℚ} {e : Int} {x : Magnitude} (pos : 0 < r)
    (grid : max (Int.log 2 r - 52) (-1074) = e) (h : ofRat? r = some x) :
    x.toRat = gridSignificand r e * 2 ^ e := by
  rw [ofRat?_of_pos pos grid] at h
  split at h
  · next carry =>
    rw [toRat_of_ofParts? h, carry, zpow_add_one₀ two_ne_zero]
    push_cast
    ring
  · exact toRat_of_ofParts? h

/-- **A rational is rounded to an integer** exactly if it is off by half a unit of the last place at
most from one. Beyond 52 bits that is every rational. -/
theorem exists_natCast_toRat_iff {r : ℚ} {x : Magnitude} (nonneg : 0 ≤ r)
    (h : ofRat? r = some x) : (∃ n : Nat, x.toRat = n) ↔ ∃ n : Nat, |r - n| ≤ unit r / 2 := by
  rcases nonneg.eq_or_lt with rfl | pos
  · have value : x.toRat = 0 := by
      rw [ofRat?_zero, Option.some.injEq] at h
      rw [← h, toRat_eq, zero, Nat.cast_zero, zero_mul]
    refine iff_of_true ⟨0, by rw [value, Nat.cast_zero]⟩ ⟨0, ?_⟩
    rw [Nat.cast_zero, sub_zero, abs_zero, unit]
    positivity
  · obtain ⟨e, grid⟩ : ∃ e, max (Int.log 2 r - 52) (-1074) = e := ⟨_, rfl⟩
    rw [unit, grid, toRat_of_ofRat? pos grid h]
    constructor
    · rintro ⟨n, eq⟩
      exact ⟨n, eq ▸ gridSignificand_error pos⟩
    · rintro ⟨n, close⟩
      by_cases whole : 0 ≤ e
      · refine ⟨gridSignificand r e * 2 ^ e.toNat, ?_⟩
        rw [← Int.toNat_of_nonneg whole]
        push_cast
        rfl
      · -- Below the point the unit is a half or less, so that an integer is an even multiple of it.
        have multiple := natCast_eq_mul_zpow whole n
        have even : n * 2 ^ (-e).toNat % 2 = 0 := by
          obtain ⟨k, exponent⟩ : ∃ k, (-e).toNat = k + 1 := ⟨(-e).toNat - 1, by omega⟩
          rw [exponent, pow_succ, ← mul_assoc]
          exact Nat.mul_mod_left _ _
        rw [multiple] at close
        exact ⟨n, by rw [gridSignificand_of_even pos even close, ← multiple]⟩

theorem exists_ofRat?_natCast_iff {r : ℚ} (nonneg : 0 ≤ r) :
    (∃ x, ofRat? r = some x ∧ ∃ n : Nat, x.toRat = n) ↔
      r < overflow ∧ ∃ n : Nat, |r - n| ≤ unit r / 2 := by
  rw [← not_le, ← ofRat?_eq_none_iff nonneg]
  cases rounded : ofRat? r with
  | none => simp
  | some x => simp [exists_natCast_toRat_iff nonneg rounded]

theorem toRat_nonneg (x : Magnitude) : 0 ≤ x.toRat := by
  rw [toRat_eq]
  positivity

end Magnitude

/-! ## Numbers that are integers -/

/-- Whether the value is an integer. -/
def Binary64.IsIntegral (x : Binary64) : Prop := ∃ n : Int, x.toRat? = some (n : ℚ)

theorem Binary64.isIntegral_finite_iff {negative : Bool} {x : Magnitude} :
    (finite negative x).IsIntegral ↔ ∃ n : Nat, x.toRat = n := by
  constructor
  · rintro ⟨n, value⟩
    have magnitude : x.toRat = |(n : ℚ)| := by
      rw [toRat?, Option.some.injEq] at value
      rw [← value, apply_ite abs, abs_neg, ite_self, abs_of_nonneg x.toRat_nonneg]
    exact ⟨n.natAbs, by rw [magnitude, Nat.cast_natAbs, Int.cast_abs]⟩
  · rintro ⟨n, value⟩
    cases negative with
    | false => exact ⟨n, by simp [toRat?, value]⟩
    | true => exact ⟨-n, by simp [toRat?, value]⟩

/-- The head of a text makes an integral floating-point number exactly if it has a proper fraction
and its decimal number, which does not overflow, is rounded to an integer. -/
theorem NumberHead.Heads.isIntegral_iff {s : Separators} {t : Text} {h : NumberHead}
    (heads : h.Heads s t) (short : s.grouping.length ≤ 1)
    (noDigit : ∀ c ∈ s.grouping, isDecimalDigit c = false) :
    (∃ x, h.number? s = some (.float x) ∧ x.IsIntegral) ↔
      ∃ f, h.properFraction? = some f ∧ h.decimal s f < Magnitude.overflow ∧
        ∃ n : Nat, |h.decimal s f - n| ≤ Magnitude.unit (h.decimal s f) / 2 := by
  cases proper : h.properFraction? with
  | none => simp [number?_eq_int? proper]
  | some f =>
    rw [heads.number?_of_fraction short noDigit proper]
    simp only [Option.some.injEq, exists_eq_left',
      ← Magnitude.exists_ofRat?_natCast_iff (decimal_nonneg f)]
    constructor
    · rintro ⟨y, number, integral⟩
      obtain ⟨x, rounded, eq⟩ := Option.map_eq_some_iff.1 number
      cases eq
      exact ⟨x, rounded, Binary64.isIntegral_finite_iff.1 integral⟩
    · rintro ⟨x, rounded, integral⟩
      refine ⟨.finite h.negative x, ?_, Binary64.isIntegral_finite_iff.2 integral⟩
      rw [rounded, Option.map_some]

/-- **When a floating-point number that is read is an integer.** The text starts with a fraction
that has another character than the ASCII zero and does not overflow, and the decimal number of its
digits is off by half a unit of the last place at most from an integer. Every other integral number
is read as an integer. -/
theorem readNumber_isIntegral_iff (t : Text) :
    (∃ x, readNumber {} t = some (.float x) ∧ x.IsIntegral) ↔
      ∃ h f, NumberHead.ofText? {} t = some h ∧ h.fraction = some f ∧ (∃ c ∈ f, c ≠ '0') ∧
        h.decimal {} f < Magnitude.overflow ∧
          ∃ n : Nat, |h.decimal {} f - n| ≤ Magnitude.unit (h.decimal {} f) / 2 := by
  have noDigit : ∀ c ∈ ({} : Separators).grouping, isDecimalDigit c = false :=
    List.forall_mem_singleton.2 (by decide)
  cases read : NumberHead.ofText? {} t with
  | none => simp [readNumber, read]
  | some h =>
    have heads := NumberHead.heads_of_ofText? read
    have integral := heads.isIntegral_iff (by decide) noDigit
    simp only [NumberHead.properFraction?_eq_some_iff, and_assoc] at integral
    simp only [readNumber, read, Option.bind_eq_bind, Option.bind_some, integral,
      Option.some.injEq, exists_and_left, exists_eq_left']

/-- The magnitude of one. -/
def Magnitude.one : Magnitude := ⟨2 ^ 52, -52, by decide, by decide, .inl (by decide)⟩

/-- A fraction that is a zero in another script, and one that is too small to count. -/
theorem readNumber_integral_float :
    readNumber {} "1.\u0660".toList = some (.float (.finite false .one)) ∧
      readNumber {} "1.00000000000000000001".toList = some (.float (.finite false .one)) ∧
      (Binary64.finite false .one).IsIntegral := by
  refine ⟨by decide +kernel, by decide +kernel, 1, ?_⟩
  decide +kernel

end Criteria
