import Criteria.Text.Blank
import Criteria.Text.DecimalDigit

/-!
# Digits of every script

The digits of a script are ten code points in a row. So ranges hold no digit if each of them lies
apart from each of these rows, which is a check of two tables against one another.
-/

namespace Criteria
set_option autoImplicit false

/-! ## ASCII digits -/

theorem isDigit_iff {c : Char} : c.isDigit = true ↔ 48 ≤ c.toNat ∧ c.toNat ≤ 57 := by
  simp only [Char.isDigit, Bool.and_eq_true, decide_eq_true_eq, ge_iff_le, UInt32.le_iff_toNat_le]
  rfl

theorem isDigit_digitChar {n : Nat} (h : n < 10) : n.digitChar.isDigit = true := by
  rw [isDigit_iff, Nat.toNat_digitChar_of_lt_ten h]
  omega

theorem digitValue?_of_isDigit {c : Char} (h : c.isDigit = true) :
    digitValue? c = some (c.toNat - 48) := by
  rw [isDigit_iff] at h
  have first : (48 ≤ c.toNat && c.toNat < 48 + 10) = true := by
    rw [Bool.and_eq_true, decide_eq_true_eq, decide_eq_true_eq]
    omega
  show ((48 :: digitZeros.tail).find? fun z => z ≤ c.toNat && c.toNat < z + 10).map _ = _
  rw [List.find?_cons, first]
  rfl

theorem asciiDigit?_of_isDigit {c : Char} (h : c.isDigit = true) :
    asciiDigit? c = some (c.toNat - 48) := by
  have mem : ('0' ≤ c && c ≤ '9') = true := by
    rw [Bool.and_eq_true, decide_eq_true_eq, decide_eq_true_eq]
    exact isDigit_iff.1 h
  rw [asciiDigit?, if_pos mem]
  rfl

theorem isDigit_of_asciiDigit? {c : Char} (h : (asciiDigit? c).isSome = true) :
    c.isDigit = true := by
  unfold asciiDigit? at h
  split at h
  · next mem =>
    rw [Bool.and_eq_true, decide_eq_true_eq, decide_eq_true_eq] at mem
    exact isDigit_iff.2 mem
  · cases h

theorem digitValue?_of_asciiDigit? {c : Char} {n : Nat} (h : asciiDigit? c = some n) :
    digitValue? c = some n := by
  have digit : c.isDigit = true := isDigit_of_asciiDigit? (by rw [h]; rfl)
  rw [digitValue?_of_isDigit digit, ← asciiDigit?_of_isDigit digit, h]

theorem isSome_asciiDigit? (c : Char) : (asciiDigit? c).isSome = c.isDigit := by
  rw [Bool.eq_iff_iff]
  constructor
  · exact isDigit_of_asciiDigit?
  · intro digit
    rw [asciiDigit?_of_isDigit digit]
    rfl

theorem isDecimalDigit_of_isDigit {c : Char} (h : c.isDigit = true) : isDecimalDigit c = true := by
  rw [isDecimalDigit, digitValue?_of_isDigit h]
  rfl

/-! ## Digits of any script -/

/-- A digit is one of ten code points from a digit zero on. -/
theorem exists_zero_of_digitValue? {c : Char} {d : Nat} (h : digitValue? c = some d) :
    ∃ z ∈ digitZeros, c.toNat = z + d ∧ d < 10 := by
  obtain ⟨z, found, rfl⟩ := Option.map_eq_some_iff.1 h
  have holds := List.find?_some found
  simp only [Bool.and_eq_true, decide_eq_true_eq] at holds
  exact ⟨z, List.mem_of_find?_eq_some found, by omega, by omega⟩

theorem digitValue?_lt {c : Char} {d : Nat} (h : digitValue? c = some d) : d < 10 := by
  obtain ⟨_, _, _, lt⟩ := exists_zero_of_digitValue? h
  exact lt

theorem isDecimalDigit_of_digitValue? {c : Char} {d : Nat} (h : digitValue? c = some d) :
    isDecimalDigit c = true := by
  rw [isDecimalDigit, h]
  rfl

/-- Of the digits of all scripts, only those of one are ASCII characters. -/
theorem isDigit_of_ascii {c : Char} (ascii : c.toNat < 128) (h : isDecimalDigit c = true) :
    c.isDigit = true := by
  obtain ⟨d, value⟩ := Option.isSome_iff_exists.1 h
  obtain ⟨z, mem, code, lt⟩ := exists_zero_of_digitValue? value
  have zeros : ∀ z ∈ digitZeros, z = 48 ∨ 128 ≤ z := by decide
  have zero := zeros z mem
  rw [isDigit_iff]
  omega

/-- Whether the ranges lie apart from the digits of every script. -/
def digitFree (rs : List CodeRange) : Bool :=
  digitZeros.all fun z => rs.all fun r => r.last < z || z + 9 < r.first

theorem inRanges_eq_false {rs : List CodeRange} (free : digitFree rs = true) {c : Char}
    (h : isDecimalDigit c = true) : inRanges rs c = false := by
  obtain ⟨d, value⟩ := Option.isSome_iff_exists.1 h
  obtain ⟨z, mem, code, lt⟩ := exists_zero_of_digitValue? value
  rw [inRanges, List.any_eq_false]
  intro r range
  have apart := List.all_eq_true.1 (List.all_eq_true.1 free z mem) r range
  simp only [Bool.or_eq_true, decide_eq_true_eq] at apart
  simp only [CodeRange.holds, Bool.and_eq_true, decide_eq_true_eq]
  omega

theorem isBlank_of_isDecimalDigit {c : Char} (h : isDecimalDigit c = true) : isBlank c = false :=
  inRanges_eq_false (by decide) h

end Criteria
