import Criteria.Proofs.Number.Rounding

/-!
# Where rounding overflows

A rational has no nearest magnitude from the middle between the largest magnitude and the next power
of two on. The middle itself is a tie, and the even significand of the two is the one that is too
large.
-/

namespace Criteria
set_option autoImplicit false

/-! ## Rounding to integers -/

section Integers

variable {n den k : Nat}

theorem roundHalfEven_le (below : n < k * den) : roundHalfEven n den ≤ k := by
  have lt : n / den < k := Nat.div_lt_of_lt_mul (by rwa [Nat.mul_comm])
  have parity : n / den % 2 ≤ 1 := by omega
  simp only [roundHalfEven]
  split_ifs <;> omega

theorem le_roundHalfEven (pos : 0 < den) (above : k * den ≤ n) : k ≤ roundHalfEven n den := by
  have le : k ≤ n / den := (Nat.le_div_iff_mul_le pos).2 above
  simp only [roundHalfEven]
  split_ifs <;> omega

/-- Rounding is off by half at most. -/
theorem roundHalfEven_error (pos : 0 < den) :
    2 * (roundHalfEven n den * den) ≤ 2 * n + den ∧
      2 * n ≤ 2 * (roundHalfEven n den * den) + den := by
  have parts := Nat.div_add_mod' n den
  have remainder := Nat.mod_lt n pos
  have next : (n / den + 1) * den = n / den * den + den := Nat.succ_mul _ _
  rcases Nat.mod_two_eq_zero_or_one (n / den) with even | odd
  · simp only [roundHalfEven, even, Nat.add_zero]
    split_ifs <;> omega
  · simp only [roundHalfEven, odd]
    split_ifs <;> omega

/-- What is off by half at most from an even integer is rounded to it. -/
theorem roundHalfEven_of_even (pos : 0 < den) (even : k % 2 = 0)
    (low : 2 * (k * den) ≤ 2 * n + den) (high : 2 * n ≤ 2 * (k * den) + den) :
    roundHalfEven n den = k := by
  have parts := Nat.div_add_mod' n den
  have remainder := Nat.mod_lt n pos
  simp only [roundHalfEven]
  generalize n / den = q at *
  generalize n % den = r at *
  have next : (q + 1) * den = q * den + den := Nat.succ_mul _ _
  rcases lt_trichotomy k q with before | rfl | behind
  · have below : (k + 1) * den ≤ q * den := Nat.mul_le_mul_right _ before
    rw [Nat.succ_mul] at below
    omega
  · split_ifs <;> omega
  · by_cases last : k = q + 1
    · rw [last, next] at low high
      split_ifs <;> omega
    · have above : (q + 2) * den ≤ k * den := Nat.mul_le_mul_right _ (by omega)
      have twice : (q + 2) * den = q * den + 2 * den := Nat.add_mul _ _ _
      omega

/-- Rounding up to an even integer happens from the tie on. -/
theorem roundHalfEven_eq_iff (pos : 0 < den) (even : k % 2 = 0) (below : n < k * den) :
    roundHalfEven n den = k ↔ 2 * (k * den) ≤ 2 * n + den := by
  constructor
  · rintro rfl
    exact (roundHalfEven_error pos).1
  · intro tie
    exact roundHalfEven_of_even pos even tie (by omega)

end Integers

namespace Magnitude

theorem ofParts?_eq_none_iff {n : Nat} {e : Int} :
    ofParts? n e = none ↔
      ¬ (n < 2 ^ 53 ∧ (-1074 ≤ e ∧ e ≤ 971) ∧ (2 ^ 52 ≤ n ∨ e = -1074)) := by
  unfold ofParts?
  split
  · next fits => exact iff_of_false (Option.some_ne_none _) (not_not.2 fits)
  · next misfit => exact iff_of_true rfl misfit

/-- The middle between the largest magnitude and the next power of two. -/
def overflow : ℚ := (2 ^ 54 - 1) * 2 ^ 970

section Grid

variable {r : ℚ} {e : Int}

theorem grid_le_iff (pos : 0 < r) (a b : Nat) :
    a * (r.den * 2 ^ e.toNat) ≤ b * (r.num.toNat * 2 ^ (-e).toNat) ↔ (a : ℚ) * 2 ^ e ≤ b * r := by
  rw [scale_le_iff r.den_pos, cast_toNat_num pos, Rat.num_div_den]

/-- The significand has 53 bits, or is the power of two behind them, unless the exponent is the
least one. It is that power exactly from the tie on. -/
theorem gridSignificand_spec (pos : 0 < r) (grid : max (Int.log 2 r - 52) (-1074) = e) :
    gridSignificand r e ≤ 2 ^ 53 ∧ (2 ^ 52 ≤ gridSignificand r e ∨ e = -1074) ∧
      (gridSignificand r e = 2 ^ 53 ↔ ((2 ^ 54 - 1 : Nat) : ℚ) * 2 ^ e ≤ 2 * r) := by
  have den_pos : 0 < r.den * 2 ^ e.toNat := Nat.mul_pos r.den_pos (Nat.two_pow_pos _)
  have below : r.num.toNat * 2 ^ (-e).toNat < 2 ^ 53 * (r.den * 2 ^ e.toNat) := by
    have lt : ¬ ((2 ^ 53 : Nat) : ℚ) * 2 ^ e ≤ (1 : Nat) * r := by
      rw [not_le, Nat.cast_one, one_mul]
      exact_mod_cast lt_of_grid grid
    rw [← grid_le_iff pos] at lt
    omega
  refine ⟨roundHalfEven_le below, ?_, ?_⟩
  · by_cases least : e = -1074
    · exact Or.inr least
    · have low := Int.zpow_log_le_self (b := 2) Nat.one_lt_two pos
      have exponent : Int.log 2 r = 52 + e := by omega
      refine Or.inl (le_roundHalfEven den_pos ?_)
      have le : ((2 ^ 52 : Nat) : ℚ) * 2 ^ e ≤ (1 : Nat) * r := by
        rw [Nat.cast_one, one_mul]
        calc ((2 ^ 52 : Nat) : ℚ) * 2 ^ e = 2 ^ (52 + e) := by
              rw [zpow_add₀ two_ne_zero]
              norm_num
          _ ≤ r := by exact_mod_cast exponent ▸ low
      rw [← grid_le_iff pos] at le
      omega
  · have tie := grid_le_iff (e := e) pos (2 ^ 54 - 1) 2
    rw [Nat.cast_ofNat] at tie
    rw [gridSignificand, roundHalfEven_eq_iff den_pos (by norm_num) below, ← tie]
    omega

end Grid

theorem overflow_pos : 0 < overflow := mul_pos (by norm_num) (by positivity)

theorem two_zpow_lt_overflow : (2 : ℚ) ^ (1023 : Int) < overflow := by
  have split : (2 : ℚ) ^ (1023 : Int) = 2 ^ 53 * 2 ^ 970 := by
    rw [← pow_add]
    rfl
  rw [split, overflow]
  exact mul_lt_mul_of_pos_right (by norm_num) (by positivity)

theorem overflow_lt_two_zpow : overflow < (2 : ℚ) ^ (1024 : Int) := by
  have split : (2 : ℚ) ^ (1024 : Int) = 2 ^ 54 * 2 ^ 970 := by
    rw [← pow_add]
    rfl
  rw [split, overflow]
  exact mul_lt_mul_of_pos_right (by norm_num) (by positivity)

/-- **A rational overflows exactly from the middle on** that lies between the largest magnitude and
the next power of two. -/
theorem ofRat?_eq_none_iff {r : ℚ} (nonneg : 0 ≤ r) : ofRat? r = none ↔ overflow ≤ r := by
  rcases nonneg.eq_or_lt with rfl | pos
  · exact iff_of_false (Option.some_ne_none _) (not_le.2 overflow_pos)
  · obtain ⟨e, grid⟩ : ∃ e, max (Int.log 2 r - 52) (-1074) = e := ⟨_, rfl⟩
    obtain ⟨bound, normal, tie⟩ := gridSignificand_spec pos grid
    have misfit : ofRat? r = none ↔ 971 < e ∨ e = 971 ∧ gridSignificand r e = 2 ^ 53 := by
      rw [ofRat?_of_pos pos grid]
      split <;> rw [ofParts?_eq_none_iff] <;> omega
    rw [misfit]
    rcases lt_trichotomy e 971 with small | rfl | large
    · have high : r < overflow :=
        calc r < (2 : ℚ) ^ (Int.log 2 r + 1) := by
              exact_mod_cast Int.lt_zpow_succ_log_self (b := 2) Nat.one_lt_two r
          _ ≤ 2 ^ (1023 : Int) := zpow_le_zpow_right₀ one_le_two (by omega)
          _ < overflow := two_zpow_lt_overflow
      exact iff_of_false (by omega) (not_le.2 high)
    · have double : ((2 ^ 54 - 1 : Nat) : ℚ) * 2 ^ (971 : Int) = 2 * overflow := by
        rw [overflow, show (971 : Int) = (970 : Nat) + 1 by norm_num, zpow_add_one₀ two_ne_zero,
          zpow_natCast]
        generalize (2 : ℚ) ^ 970 = power
        push_cast
        ring
      rw [tie, double, mul_le_mul_iff_right₀ two_pos]
      simp
    · have low : overflow ≤ r :=
        calc overflow ≤ (2 : ℚ) ^ (1024 : Int) := overflow_lt_two_zpow.le
          _ ≤ 2 ^ Int.log 2 r := zpow_le_zpow_right₀ one_le_two (by omega)
          _ ≤ r := by exact_mod_cast Int.zpow_log_le_self (b := 2) Nat.one_lt_two pos
      exact iff_of_true (Or.inl large) low

end Magnitude

end Criteria
