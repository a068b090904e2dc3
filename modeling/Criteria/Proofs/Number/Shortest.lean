import Criteria.Number.Shortest
import Criteria.Proofs.Number.Rounding

/-!
# Decimals that read back

The shortest decimal of a magnitude is rounded to that magnitude: it was chosen among those that
are, or it is the exact value. Its positional form has a fraction unless the magnitude is integral.
-/

namespace Criteria
set_option autoImplicit false

namespace Decimal

theorem toRat_eq (d : Decimal) : d.toRat = d.coefficient * 10 ^ d.exponent :=
  scaled_eq_zpow (by decide) d.coefficient d.exponent

/-- Zeros at the end of the coefficient do not count. -/
theorem toRat_trim (d : Decimal) : d.trim.toRat = d.toRat := by
  induction d using trim.induct with
  | case1 d h ih =>
    have exact_tenth : ((d.coefficient / 10 : Nat) : ℚ) * 10 = d.coefficient := by
      exact_mod_cast Nat.div_mul_cancel (Nat.dvd_of_mod_eq_zero h.2)
    rw [trim, if_pos h, ih, toRat_eq, toRat_eq, ← exact_tenth, zpow_add_one₀ (by norm_num)]
    ring
  | case2 d h => rw [trim, if_neg h]

/-- A decimal without places stands for a natural number. -/
theorem exists_natCast_of_exponent {d : Decimal} (h : 0 ≤ d.exponent) :
    ∃ n : Nat, d.toRat = n := by
  refine ⟨d.coefficient * 10 ^ d.exponent.toNat, ?_⟩
  rw [toRat_eq, ← Int.toNat_of_nonneg h]
  push_cast
  rfl

/-- Positional form with places: the digits of the coefficient, filled up with zeros at the start,
with a point that has the places behind it and a digit or more before it. -/
theorem positional_of_places {d : Decimal} (h : d.exponent < 0) :
    ∃ whole fraction : Text, d.positional = whole ++ '.' :: fraction ∧ whole ≠ [] ∧
      (fraction.length : Int) = -d.exponent ∧
      (∀ c ∈ whole ++ fraction, c.isDigit = true) ∧
      Nat.ofDigitChars 10 (whole ++ fraction) 0 = d.coefficient := by
  have digits : ∀ c ∈ d.digits, c.isDigit = true := fun c mem =>
    Nat.isDigit_of_mem_toDigits (by decide) (by decide) mem
  let padded := List.replicate ((-d.exponent).toNat + 1 - d.digits.length) '0' ++ d.digits
  have length : (-d.exponent).toNat < padded.length := by
    simp only [padded, List.length_append, List.length_replicate]
    omega
  refine ⟨padded.take (padded.length - (-d.exponent).toNat),
    padded.drop (padded.length - (-d.exponent).toNat), ?_, ?_, ?_, ?_, ?_⟩
  · rw [positional, if_neg (by omega)]
  · rw [ne_eq, List.take_eq_nil_iff]
    rintro (none | nil)
    · omega
    · rw [nil] at length
      exact absurd length (Nat.not_lt_zero _)
  · rw [List.length_drop]
    omega
  · rw [List.take_append_drop]
    intro c mem
    rcases List.mem_append.1 mem with zero | digit
    · rw [List.eq_of_mem_replicate zero]
      decide
    · exact digits c digit
  · rw [List.take_append_drop, Nat.ofDigitChars_append, Nat.ofDigitChars_replicate_zero,
      Nat.mul_zero, Decimal.digits, Nat.ofDigitChars_ten_toDigits]

end Decimal

namespace Magnitude

theorem toRat_exactDecimal (x : Magnitude) : x.exactDecimal.toRat = x.toRat := by
  rw [exactDecimal, toRat_eq, Decimal.toRat_eq]
  split
  · next h =>
    have power := two_zpow_mul_pow x.exponent
    rw [show (-x.exponent).toNat = 0 by omega, pow_zero, mul_one] at power
    rw [power, zpow_zero, mul_one, Nat.shiftLeft_eq]
    push_cast
    rfl
  · next h =>
    have exponent : x.exponent = -((-x.exponent).toNat : Int) := by omega
    generalize (-x.exponent).toNat = k at exponent
    rw [exponent, Nat.pow_eq]
    push_cast
    rw [zpow_neg, zpow_neg, zpow_natCast, zpow_natCast, show (10 : ℚ) = 5 * 2 by norm_num, mul_pow]
    field_simp

theorem readsBack_of_onGrid? {x : Magnitude} {e : Int} {d : Decimal} (h : x.onGrid? e = some d) :
    x.readsBack d = true := by
  unfold onGrid? at h
  generalize x.neighbours e = pair at h
  obtain ⟨low, high⟩ := pair
  simp only at h
  split at h
  · next low_back high_back =>
    split at h
    · cases h; exact low_back
    · split at h
      · cases h; exact high_back
      · split at h
        · cases h; exact low_back
        · cases h; exact high_back
  · next low_back _ => cases h; exact low_back
  · next _ high_back => cases h; exact high_back
  · cases h

/-- **The shortest decimal reads back.** -/
theorem ofRat?_shortest (x : Magnitude) : ofRat? x.shortest.toRat = some x := by
  unfold shortest
  split
  · next h =>
    rw [eq_zero_of_significand h, Decimal.toRat_eq]
    simp [ofRat?_zero]
  · rw [Decimal.toRat_trim]
    cases found : (List.range 17).findSome? fun n => x.onGrid? (x.places - 1 - (n : Nat)) with
    | none => rw [Option.getD_none, toRat_exactDecimal, ofRat?_toRat]
    | some d =>
      obtain ⟨n, -, onGrid⟩ := List.exists_of_findSome?_eq_some found
      exact beq_iff_eq.1 (readsBack_of_onGrid? onGrid)

/-- A magnitude whose shortest decimal is a natural number is integral. -/
theorem isIntegral_of_shortest {x : Magnitude} {n : Nat} (h : x.shortest.toRat = n) :
    x.isIntegral = true := by
  apply isIntegral_of_ofRat?_natCast (n := n)
  rw [← h]
  exact ofRat?_shortest x

end Magnitude

end Criteria
