import Criteria.Number.Binary64
import Mathlib.Algebra.Order.Field.Power
import Mathlib.Data.Int.Log
import Mathlib.Data.Nat.Cast.Field
import Mathlib.Data.Rat.Floor
import Mathlib.Tactic.Positivity
import Mathlib.Tactic.Ring

/-!
# Rounding to magnitudes

The exact value of a magnitude is rounded to that magnitude, and a natural number is rounded to an
integral one. Both follow from the grid: it depends on the binary logarithm of the value only, and
a value on the grid stays where it is.
-/

namespace Criteria
set_option autoImplicit false

theorem scaled_eq_zpow {base : Nat} (h : base ≠ 0) (n : Nat) (e : Int) :
    scaled base n e = n * (base : ℚ) ^ e := by
  have pos : (base : ℚ) ≠ 0 := Nat.cast_ne_zero.2 h
  rw [scaled, Rat.mkRat_eq_div, Nat.pow_eq, Nat.pow_eq]
  push_cast
  rw [mul_div_assoc, ← zpow_natCast, ← zpow_natCast, ← zpow_sub₀ pos]
  congr 2
  omega

/-- A quotient that is exact is not changed by rounding. -/
theorem roundHalfEven_mul {n den : Nat} (h : 0 < den) : roundHalfEven (n * den) den = n := by
  simp [roundHalfEven, Nat.mul_div_cancel _ h, Nat.mul_mod_left, h]

namespace Magnitude

theorem two_zpow_mul_pow (e : Int) : (2 : ℚ) ^ e * 2 ^ (-e).toNat = 2 ^ e.toNat := by
  rw [← zpow_natCast, ← zpow_natCast, ← zpow_add₀ (by norm_num)]
  congr 1
  omega

/-- A comparison of integers on the grid of `2 ^ e`, read as one of rationals. -/
theorem scale_le_iff {num den : Nat} (hd : 0 < den) (a b : Nat) (e : Int) :
    a * (den * 2 ^ e.toNat) ≤ b * (num * 2 ^ (-e).toNat) ↔ (a : ℚ) * 2 ^ e ≤ b * (num / den) := by
  have den_pos : (0 : ℚ) < den := Nat.cast_pos.2 hd
  have pos : (0 : ℚ) < den * 2 ^ (-e).toNat := by positivity
  have left : (a : ℚ) * 2 ^ e * (den * 2 ^ (-e).toNat) = a * (den * 2 ^ e.toNat) := by
    rw [← two_zpow_mul_pow e]
    ring
  have right : (b : ℚ) * (num / den) * (den * 2 ^ (-e).toNat) = b * (num * 2 ^ (-e).toNat) := by
    field_simp
  rw [← mul_le_mul_iff_of_pos_right pos, left, right, ← Nat.cast_le (α := ℚ)]
  push_cast
  rfl

/-- The comparison that fixes the leading bit, read as one of rationals. -/
theorem mul_pow_le_iff {num den : Nat} (hd : 0 < den) (k : Int) :
    den * 2 ^ k.toNat ≤ num * 2 ^ (-k).toNat ↔ (2 : ℚ) ^ k ≤ num / den := by
  simpa using scale_le_iff hd 1 1 k

theorem log_eq_of_bounds {r : ℚ} {k : Int} (low : (2 : ℚ) ^ k ≤ r) (high : r < 2 ^ (k + 1)) :
    Int.log 2 r = k := by
  have pos : 0 < r := lt_of_lt_of_le (by positivity) low
  have above := (Int.zpow_le_iff_le_log Nat.one_lt_two pos).1 (by exact_mod_cast low)
  have below := (Int.lt_zpow_iff_log_lt Nat.one_lt_two pos).1 (by exact_mod_cast high)
  omega

/-- The leading bit of a quotient is its binary logarithm. -/
theorem leadingBit_eq_log {num den : Nat} (hn : num ≠ 0) (hd : den ≠ 0) :
    leadingBit num den = Int.log 2 ((num : ℚ) / den) := by
  have pos : (0 : ℚ) < den := Nat.cast_pos.2 (Nat.pos_of_ne_zero hd)
  have n_low : (2 : ℚ) ^ num.log2 ≤ num := by exact_mod_cast Nat.log2_self_le hn
  have n_high : (num : ℚ) < 2 ^ (num.log2 + 1) := by exact_mod_cast Nat.lt_log2_self
  have d_low : (2 : ℚ) ^ den.log2 ≤ den := by exact_mod_cast Nat.log2_self_le hd
  have d_high : (den : ℚ) < 2 ^ (den.log2 + 1) := by exact_mod_cast Nat.lt_log2_self
  have low : (2 : ℚ) ^ ((num.log2 : Int) - den.log2 - 1) ≤ num / den := by
    rw [le_div_iff₀ pos, sub_sub, zpow_sub₀ two_ne_zero, div_mul_eq_mul_div,
      div_le_iff₀ (by positivity)]
    exact_mod_cast mul_le_mul n_low d_high.le pos.le (by positivity)
  have high : (num : ℚ) / den < 2 ^ ((num.log2 : Int) - den.log2 + 1) := by
    rw [div_lt_iff₀ pos, sub_add_eq_add_sub, zpow_sub₀ two_ne_zero, div_mul_eq_mul_div,
      lt_div_iff₀ (by positivity)]
    exact_mod_cast mul_lt_mul n_high d_low (by positivity) (by positivity)
  unfold leadingBit
  simp only [Nat.shiftLeft_eq, mul_pow_le_iff (Nat.pos_of_ne_zero hd)]
  split
  · next le => exact (log_eq_of_bounds le high).symm
  · next lt =>
    refine (log_eq_of_bounds low ?_).symm
    rw [sub_add_cancel]
    exact not_le.1 lt

theorem cast_toNat_num {r : ℚ} (pos : 0 < r) : ((r.num.toNat : Nat) : ℚ) = r.num := by
  have num_pos : 0 < r.num := Rat.num_pos.2 pos
  exact_mod_cast congrArg (Int.cast (R := ℚ)) (Int.toNat_of_nonneg num_pos.le)

/-- The exponent of the grid on which a rational is rounded. -/
theorem gridExponent_eq {r : ℚ} (pos : 0 < r) :
    gridExponent r.num.toNat r.den = max (Int.log 2 r - 52) (-1074) := by
  have num_pos : 0 < r.num := Rat.num_pos.2 pos
  rw [gridExponent, leadingBit_eq_log (by omega) r.den_ne_zero, cast_toNat_num pos,
    Rat.num_div_den]

/-- The significand that a rational is rounded to on the grid of `2 ^ e`. -/
def gridSignificand (r : ℚ) (e : Int) : Nat :=
  roundHalfEven (r.num.toNat * 2 ^ (-e).toNat) (r.den * 2 ^ e.toNat)

/-- A rational is rounded to its significand, carried over if it has too many bits. -/
theorem ofRat?_of_pos {r : ℚ} {e : Int} (pos : 0 < r)
    (grid : max (Int.log 2 r - 52) (-1074) = e) :
    ofRat? r = if gridSignificand r e = 2 ^ 53 then ofParts? (2 ^ 52) (e + 1)
      else ofParts? (gridSignificand r e) e := by
  have num_pos : 0 < r.num := Rat.num_pos.2 pos
  have nonzero : r.num.toNat ≠ 0 := by omega
  simp only [ofRat?, gridExponent_eq pos, grid, Nat.shiftLeft_eq, if_neg nonzero, Nat.one_mul]
  rfl

/-- On its grid a rational has 53 bits at most before the point. -/
theorem lt_of_grid {r : ℚ} {e : Int} (grid : max (Int.log 2 r - 52) (-1074) = e) :
    r < 2 ^ 53 * 2 ^ e :=
  calc r < (2 : ℚ) ^ (Int.log 2 r + 1) := by
        exact_mod_cast Int.lt_zpow_succ_log_self (b := 2) Nat.one_lt_two r
    _ ≤ 2 ^ (53 + e) := zpow_le_zpow_right₀ one_le_two (by omega)
    _ = 2 ^ 53 * 2 ^ e := by
        rw [zpow_add₀ two_ne_zero]
        norm_num

/-- A value on its grid is not changed by rounding. -/
theorem ofRat?_of_grid {r : ℚ} {n : Nat} {e : Int} (pos : 0 < r)
    (grid : max (Int.log 2 r - 52) (-1074) = e) (eq : r = n * 2 ^ e) :
    ofRat? r = ofParts? n e := by
  have den_pos : 0 < r.den * 2 ^ e.toNat := Nat.mul_pos r.den_pos (Nat.two_pow_pos _)
  have exact_quotient : r.num.toNat * 2 ^ (-e).toNat = n * (r.den * 2 ^ e.toNat) := by
    have h : (r.num : ℚ) = n * 2 ^ e * r.den := by rw [← eq, Rat.mul_den_eq_num]
    have : (r.num : ℚ) * 2 ^ (-e).toNat = n * (r.den * 2 ^ e.toNat) := by
      rw [h, ← two_zpow_mul_pow e]
      ring
    rw [← cast_toNat_num pos] at this
    exact_mod_cast this
  have significand : gridSignificand r e = n := by
    rw [gridSignificand, exact_quotient, roundHalfEven_mul den_pos]
  have bound : n < 2 ^ 53 := by
    have below := lt_of_grid grid
    rw [eq] at below
    exact_mod_cast lt_of_mul_lt_mul_right below (by positivity)
  rw [ofRat?_of_pos pos grid, significand, if_neg bound.ne]

theorem toRat_eq (x : Magnitude) : x.toRat = x.significand * 2 ^ x.exponent := by
  rw [toRat, scaled_eq_zpow two_ne_zero]
  rfl

theorem ofParts?_self (x : Magnitude) : ofParts? x.significand x.exponent = some x :=
  dif_pos ⟨x.significand_lt, x.exponent_mem, x.normal⟩

/-- A magnitude has the parts that it is made of. -/
theorem parts_of_ofParts? {n : Nat} {e : Int} {x : Magnitude} (h : ofParts? n e = some x) :
    x.significand = n ∧ x.exponent = e := by
  unfold ofParts? at h
  split at h
  · cases h
    exact ⟨rfl, rfl⟩
  · cases h

theorem ofRat?_zero : ofRat? 0 = some zero := rfl

theorem eq_zero_of_significand {x : Magnitude} (h : x.significand = 0) : x = zero := by
  have exponent : x.exponent = -1074 := by
    have normal := x.normal
    omega
  cases x
  cases h
  cases exponent
  rfl

/-- **Rounding the exact value** of a magnitude gives the magnitude. -/
theorem ofRat?_toRat (x : Magnitude) : ofRat? x.toRat = some x := by
  by_cases h : x.significand = 0
  · have value : x.toRat = 0 := by rw [toRat_eq, h, Nat.cast_zero, zero_mul]
    rw [value, ofRat?_zero, ← eq_zero_of_significand h]
  · have one_le : (1 : ℚ) ≤ x.significand := by exact_mod_cast Nat.pos_of_ne_zero h
    have lt : (x.significand : ℚ) < 2 ^ (53 : Int) := by exact_mod_cast x.significand_lt
    have step : (0 : ℚ) < 2 ^ x.exponent := by positivity
    have pos : 0 < x.toRat := by
      rw [toRat_eq]
      positivity
    rw [ofRat?_of_grid pos ?_ (toRat_eq x), ofParts?_self]
    rcases x.normal with normal | least
    · have le : (2 : ℚ) ^ (52 : Int) ≤ x.significand := by exact_mod_cast normal
      have log : Int.log 2 x.toRat = 52 + x.exponent := by
        apply log_eq_of_bounds
        · rw [toRat_eq, zpow_add₀ two_ne_zero]
          exact mul_le_mul_of_nonneg_right le step.le
        · rw [toRat_eq, show 52 + x.exponent + 1 = 53 + x.exponent by omega,
            zpow_add₀ two_ne_zero]
          exact mul_lt_mul_of_pos_right lt step
      have mem := x.exponent_mem
      omega
    · have high : x.toRat < (2 : ℚ) ^ (53 + x.exponent) := by
        rw [toRat_eq, zpow_add₀ two_ne_zero]
        exact mul_lt_mul_of_pos_right lt step
      have log := (Int.lt_zpow_iff_log_lt Nat.one_lt_two pos).1 (by exact_mod_cast high)
      omega

/-! ## Integral magnitudes -/

theorem isIntegral_zero : zero.isIntegral = true := by
  rw [isIntegral, zero, Nat.zero_mod]
  rfl

theorem isIntegral_of_ofParts? {n : Nat} {e : Int} {x : Magnitude} (h : ofParts? n e = some x)
    (integral : 0 ≤ e ∨ 2 ^ (-e).toNat ∣ n) : x.isIntegral = true := by
  obtain ⟨rfl, rfl⟩ := parts_of_ofParts? h
  rcases integral with nonneg | dvd
  · simp [isIntegral, nonneg]
  · simp [isIntegral, Nat.one_shiftLeft, Nat.mod_eq_zero_of_dvd dvd]

/-- A natural number is a multiple of every unit behind the point. -/
theorem natCast_eq_mul_zpow {e : Int} (places : ¬ 0 ≤ e) (n : Nat) :
    (n : ℚ) = (n * 2 ^ (-e).toNat : Nat) * 2 ^ e := by
  have power := two_zpow_mul_pow e
  rw [show e.toNat = 0 by omega, pow_zero, mul_comm] at power
  push_cast
  rw [mul_assoc, power, mul_one]

/-- A natural number is rounded to an integral magnitude. -/
theorem isIntegral_of_ofRat?_natCast {n : Nat} {x : Magnitude} (h : ofRat? (n : ℚ) = some x) :
    x.isIntegral = true := by
  by_cases zero_eq : n = 0
  · rw [zero_eq, Nat.cast_zero, ofRat?_zero] at h
    cases h
    exact isIntegral_zero
  · have pos : (0 : ℚ) < n := Nat.cast_pos.2 (Nat.pos_of_ne_zero zero_eq)
    by_cases grid : 0 ≤ max (Int.log 2 (n : ℚ) - 52) (-1074)
    · rw [ofRat?_of_pos pos rfl] at h
      split at h
      · exact isIntegral_of_ofParts? h (Or.inl (by omega))
      · exact isIntegral_of_ofParts? h (Or.inl grid)
    · generalize eq : max (Int.log 2 (n : ℚ) - 52) (-1074) = e at grid
      rw [ofRat?_of_grid pos eq (natCast_eq_mul_zpow grid n)] at h
      exact isIntegral_of_ofParts? h (Or.inr (Nat.dvd_mul_left _ _))

theorem floor_eq (x : Magnitude) :
    x.floor = x.significand * 2 ^ x.exponent.toNat / 2 ^ (-x.exponent).toNat := by
  rw [floor, Nat.shiftLeft_eq, Nat.shiftRight_eq_div_pow]

/-- An integral magnitude is the integer that it is rounded down to. -/
theorem floor_eq_toRat {x : Magnitude} (h : x.isIntegral = true) : (x.floor : ℚ) = x.toRat := by
  rw [toRat_eq, floor_eq]
  by_cases nonneg : 0 ≤ x.exponent
  · have power := two_zpow_mul_pow x.exponent
    rw [show (-x.exponent).toNat = 0 by omega, pow_zero] at power ⊢
    rw [Nat.div_one, ← mul_one ((2 : ℚ) ^ x.exponent), power]
    push_cast
    rfl
  · have dvd : 2 ^ (-x.exponent).toNat ∣ x.significand := by
      simpa [isIntegral, nonneg, Nat.one_shiftLeft, Nat.dvd_iff_mod_eq_zero] using h
    have power := two_zpow_mul_pow x.exponent
    rw [show x.exponent.toNat = 0 by omega, pow_zero, mul_one] at *
    rw [Nat.cast_div dvd (by positivity), div_eq_iff (by positivity), mul_assoc]
    push_cast
    rw [power, mul_one]

theorem floor_lt (x : Magnitude) : x.floor < 10 ^ (53 + x.exponent.toNat) :=
  calc x.floor ≤ x.significand * 2 ^ x.exponent.toNat := floor_eq x ▸ Nat.div_le_self _ _
    _ < 2 ^ 53 * 2 ^ x.exponent.toNat :=
        Nat.mul_lt_mul_of_pos_right x.significand_lt (Nat.two_pow_pos _)
    _ = 2 ^ (53 + x.exponent.toNat) := (pow_add 2 53 _).symm
    _ ≤ 10 ^ (53 + x.exponent.toNat) := Nat.pow_le_pow_left (by decide) _

end Magnitude

end Criteria
