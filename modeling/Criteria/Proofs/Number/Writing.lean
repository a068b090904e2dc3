import Criteria.Proofs.Number.Head
import Criteria.Proofs.Number.Shortest
import Criteria.Value.Writing

/-!
# Numbers written in plain digits

A number in plain digits is read back as the same number, except that a floating-point number
without a fraction is read as an integer. A fraction is read back if the point is the decimal
separator, which it has to be for a text to mean a fraction.
-/

namespace Criteria
set_option autoImplicit false

open Numeral (signed)

/-- The number that plain digits mean: a floating-point number without a fraction is an integer. -/
def Number.plain : Number → Number
  | .float (.finite negative x) =>
    if x.isIntegral then .int (if negative then -(x.floor : Int) else x.floor)
    else .float (.finite negative x)
  | n => n

/-- The numbers that texts can mean under the separators. -/
inductive Number.Readable (s : Separators) : Number → Prop where
  | int {n : Int} (bound : n.natAbs < 10 ^ Numeral.maxDigits) : Readable s (.int n)
  | float {negative : Bool} {x : Magnitude} (decimal : s.decimal = ['.'])
      (point : '.' ∉ s.grouping) : Readable s (.float (.finite negative x))

/-- A text without commas that looks like a number means a readable one. -/
theorem readable_of_readNumber {s : Separators} (short : s.decimal.length ≤ 1) {t : Text}
    (numeric : looksNumeric t = true) (comma : ',' ∉ t) {n : Number}
    (h : readNumber s t = some n) : n.Readable s := by
  obtain ⟨head, read, value⟩ := Option.bind_eq_some_iff.1 h
  unfold NumberHead.number? at value
  split at value
  · next f proper =>
    obtain ⟨⟨negative, r⟩, -, rest⟩ := Option.bind_eq_some_iff.1 value
    obtain ⟨y, rounded, eq⟩ := Option.bind_eq_some_iff.1 rest
    obtain ⟨x, -, rfl⟩ := Option.map_eq_some_iff.1 rounded
    cases eq
    have heads := NumberHead.heads_of_ofText? read
    obtain ⟨decimal, point⟩ := heads.decimal_eq short numeric comma proper
    exact .float decimal point
  · obtain ⟨n, read, rfl⟩ := Option.map_eq_some_iff.1 value
    exact .int (Numeral.int?_lt read)

/-! ## The written form -/

theorem intDigits_eq (n : Int) :
    intDigits n = signed (decide (n < 0)) (Nat.toDigits 10 n.natAbs) := by
  simp [intDigits, signed]

theorem isDigit_of_mem_toDigits {n : Nat} : ∀ c ∈ Nat.toDigits 10 n, c.isDigit = true :=
  fun _ mem => Nat.isDigit_of_mem_toDigits (by decide) (by decide) mem

theorem Magnitude.significand_ne_zero {x : Magnitude} (h : x.isIntegral = false) :
    x.significand ≠ 0 := by
  intro zero
  rw [eq_zero_of_significand zero, isIntegral_zero] at h
  cases h

theorem Magnitude.floor_eq_zero_iff {x : Magnitude} (h : x.isIntegral = true) :
    x.floor = 0 ↔ x.significand = 0 := by
  have value := floor_eq_toRat h
  rw [toRat_eq] at value
  have power : (2 : ℚ) ^ x.exponent ≠ 0 := by positivity
  rw [← Nat.cast_eq_zero (R := ℚ), value, mul_eq_zero, or_iff_left power, Nat.cast_eq_zero]

namespace Binary64

/-- A number without a fraction is written like the integer. -/
theorem write_of_isIntegral (negative : Bool) {x : Magnitude} (h : x.isIntegral = true) :
    (finite negative x).write =
      intDigits (if negative then -(x.floor : Int) else x.floor) := by
  have zero := Magnitude.floor_eq_zero_iff h
  rw [write, Magnitude.write, if_pos h, intDigits]
  cases negative with
  | false => simp
  | true =>
    by_cases significand : x.significand = 0
    · simp [significand, zero.2 significand]
    · have floor_pos : 0 < x.floor := Nat.pos_of_ne_zero (mt zero.1 significand)
      simp [significand, floor_pos]

/-- A number with a fraction is written in two rows of digits with a point between them. -/
theorem write_of_fraction (negative : Bool) {x : Magnitude} (h : x.isIntegral = false) :
    ∃ whole fraction : Text,
      (finite negative x).write = signed negative (whole ++ '.' :: fraction) ∧ whole ≠ [] ∧
      (∀ c ∈ whole ++ fraction, c.isDigit = true) ∧ fraction.any (· != '0') = true ∧
      scaled 10 (Nat.ofDigitChars 10 (whole ++ fraction) 0) (-(fraction.length : Int)) =
        x.shortest.toRat := by
  have noNat (n : Nat) : x.shortest.toRat ≠ n := by
    intro eq
    rw [Magnitude.isIntegral_of_shortest eq] at h
    cases h
  have places : x.shortest.exponent < 0 := by
    by_contra nonneg
    obtain ⟨n, eq⟩ := Decimal.exists_natCast_of_exponent (not_lt.1 nonneg)
    exact noNat n eq
  obtain ⟨whole, fraction, text, ne, length, digits, value⟩ := Decimal.positional_of_places places
  have number : scaled 10 (Nat.ofDigitChars 10 (whole ++ fraction) 0) (-(fraction.length : Int)) =
      x.shortest.toRat := by
    rw [value, length, neg_neg]
    rfl
  refine ⟨whole, fraction, ?_, ne, digits, ?_, number⟩
  · simp [write, Magnitude.write, h, text, signed, Magnitude.significand_ne_zero h]
  · by_contra zeros
    have replicate : fraction = List.replicate fraction.length '0' := by
      rw [List.eq_replicate_iff]
      constructor
      · rfl
      · intro c mem
        by_contra other
        exact zeros (List.any_eq_true.2 ⟨c, mem, by simpa using other⟩)
    apply noNat (Nat.ofDigitChars 10 whole 0)
    rw [← number, Nat.ofDigitChars_append, replicate, Nat.ofDigitChars_replicate_zero,
      List.length_replicate, scaled_eq_zpow (by decide), zpow_neg, zpow_natCast]
    push_cast
    field_simp

end Binary64

/-! ## Plain decimals -/

/-- Digits, possibly behind a minus sign, and possibly with a point and further digits behind them.
All the digits are ASCII ones. -/
inductive PlainDecimal : Text → Prop where
  | integer (negative : Bool) {whole : Text} (ne : whole ≠ [])
      (digits : ∀ c ∈ whole, c.isDigit = true) : PlainDecimal (signed negative whole)
  | fraction (negative : Bool) {whole places : Text} (ne : whole ≠ []) (places_ne : places ≠ [])
      (digits : ∀ c ∈ whole ++ places, c.isDigit = true) :
      PlainDecimal (signed negative (whole ++ '.' :: places))

namespace PlainDecimal

variable {t : Text} (h : PlainDecimal t)
include h

theorem ne_nil : t ≠ [] := by
  cases h with
  | integer negative ne _ => exact List.append_ne_nil_of_right_ne_nil _ ne
  | fraction negative ne _ _ => exact List.append_ne_nil_of_right_ne_nil _ (by simp)

theorem looksNumeric : looksNumeric t = true := by
  cases h with
  | integer negative ne digits => exact looksNumeric_digits negative ne digits
  | fraction negative ne _ digits => exact looksNumeric_fraction negative ne digits

theorem mem {c : Char} (mem : c ∈ t) : c = '-' ∨ c = '.' ∨ c.isDigit = true := by
  cases h with
  | integer negative _ digits => exact (Numeral.mem_signed mem).imp_right (Or.inr ∘ digits c)
  | @fraction negative whole places _ _ digits =>
    rcases Numeral.mem_signed mem with sign | mem
    · exact Or.inl sign
    · rw [List.mem_append, List.mem_cons, or_left_comm, ← List.mem_append] at mem
      exact Or.inr (mem.imp_right (digits c))

theorem not_mem {c : Char} (mark : c ∉ ['-', '.']) (noDigit : c.isDigit = false) : c ∉ t := by
  intro mem
  simp only [List.mem_cons, List.not_mem_nil, or_false, not_or] at mark
  rcases h.mem mem with minus | point | digit
  · exact mark.1 minus
  · exact mark.2 point
  · rw [noDigit] at digit
    cases digit

end PlainDecimal

theorem plainDecimal_intDigits (n : Int) : PlainDecimal (intDigits n) := by
  rw [intDigits_eq]
  exact .integer _ Nat.toDigits_ne_nil isDigit_of_mem_toDigits

/-- A finite number is written as a plain decimal. -/
theorem Binary64.plainDecimal_write (negative : Bool) (x : Magnitude) :
    PlainDecimal (finite negative x).write := by
  cases integral : x.isIntegral with
  | true =>
    rw [write_of_isIntegral negative integral]
    exact plainDecimal_intDigits _
  | false =>
    obtain ⟨whole, places, text, ne, digits, proper, -⟩ := write_of_fraction negative integral
    rw [text]
    refine .fraction negative ne ?_ digits
    rintro rfl
    cases proper

/-! ## Reading it back -/

namespace Number

section Reread

variable {s : Separators} (grouping : ∀ c ∈ s.grouping, c.isDigit = false)
include grouping

theorem readNumber_intDigits {n : Int} (bound : n.natAbs < 10 ^ Numeral.maxDigits) :
    readNumber s (intDigits n) = some (.int n) := by
  have length : (Nat.toDigits 10 n.natAbs).length ≤ Numeral.maxDigits :=
    (Nat.length_toDigits_le_iff (by decide) (by decide)).2 bound
  rw [intDigits_eq, readNumber_digits grouping _ Nat.toDigits_ne_nil isDigit_of_mem_toDigits length,
    Nat.ofDigitChars_ten_toDigits]
  congr 2
  by_cases h : n < 0
  · simp only [h, decide_true, if_true]
    omega
  · simp only [h, decide_false]
    show (n.natAbs : Int) = n
    omega

/-- **A readable number is read back** as what its plain digits mean. -/
theorem readNumber_write {n : Number} (h : n.Readable s) :
    readNumber s n.write = some n.plain := by
  cases h with
  | int bound => exact readNumber_intDigits grouping bound
  | @float negative x decimal point =>
    show readNumber s (Binary64.finite negative x).write =
      some (plain (.float (.finite negative x)))
    cases integral : x.isIntegral with
    | true =>
      rw [Binary64.write_of_isIntegral negative integral, plain, if_pos integral]
      apply readNumber_intDigits grouping
      have upper : 53 + x.exponent.toNat ≤ Numeral.maxDigits := by
        have mem := x.exponent_mem
        unfold Numeral.maxDigits
        omega
      have bound := Nat.lt_of_lt_of_le x.floor_lt (Nat.pow_le_pow_right (by decide) upper)
      split
      · rwa [Int.natAbs_neg, Int.natAbs_natCast]
      · rwa [Int.natAbs_natCast]
    | false =>
      obtain ⟨whole, fraction, text, ne, digits, proper, value⟩ :=
        Binary64.write_of_fraction negative integral
      rw [text, readNumber_fraction grouping decimal point negative ne digits proper, value,
        Binary64.ofRat?, Magnitude.ofRat?_shortest, plain, if_neg (by simp [integral])]
      rfl

end Reread

theorem looksNumeric_write {s : Separators} {n : Number} (h : n.Readable s) :
    looksNumeric n.write = true := by
  cases h with
  | int _ => exact (plainDecimal_intDigits _).looksNumeric
  | float _ _ => exact (Binary64.plainDecimal_write _ _).looksNumeric

/-- No number at all is written with a comma or a backslash, and none as the empty text. -/
theorem write_plain_text (n : Number) : n.write ≠ [] ∧ ',' ∉ n.write ∧ '\\' ∉ n.write := by
  have plain {t : Text} (h : PlainDecimal t) : t ≠ [] ∧ ',' ∉ t ∧ '\\' ∉ t :=
    ⟨h.ne_nil, h.not_mem (by decide) rfl, h.not_mem (by decide) rfl⟩
  match n with
  | .int n => exact plain (plainDecimal_intDigits n)
  | .float (.finite negative x) => exact plain (Binary64.plainDecimal_write negative x)
  | .float (.infinite negative) => cases negative <;> decide
  | .float .nan => decide

/-- What plain digits mean is written in the same digits. -/
theorem write_plain {s : Separators} {n : Number} (h : n.Readable s) :
    n.plain.write = n.write := by
  cases h with
  | int _ => rfl
  | @float negative x decimal point =>
    rw [plain]
    split
    · next integral => exact (Binary64.write_of_isIntegral negative integral).symm
    · rfl

/-- The plain number is the same number. -/
theorem same_plain {s : Separators} {n : Number} (h : n.Readable s) : n.plain.same n = true := by
  cases h with
  | int _ => exact beq_self_eq_true _
  | @float negative x decimal point =>
    rw [plain]
    split
    · next integral =>
      have value := Magnitude.floor_eq_toRat integral
      cases negative with
      | false => simp [same, toRat?, Binary64.toRat?, value]
      | true => simp [same, toRat?, Binary64.toRat?, value]
    · exact beq_self_eq_true _

end Number

end Criteria
