import Criteria.Proofs.Time.Fields
import Criteria.Proofs.Time.Instant

/-!
# Timestamps that read back

A date and time in whole thousandths of a second is read back from its timestamp, provided that the
year has four digits: years are not filled up, and a timestamp has 24 characters.
-/

namespace Criteria
set_option autoImplicit false

/-- The date and time with the fraction of its second cut off after the thousandths. -/
def DateTime.toMilli (t : DateTime) : DateTime where
  date := t.date
  time.hour := t.time.hour
  time.minute := t.time.minute
  time.second := t.time.second
  time.micro := t.time.micro / 1000 * 1000
  time.hour_lt := t.time.hour_lt
  time.minute_lt := t.time.minute_lt
  time.second_lt := t.time.second_lt
  time.micro_lt := Nat.lt_of_le_of_lt (Nat.div_mul_le_self _ _) t.time.micro_lt

theorem DateTime.micros_toMilli (t : DateTime) : t.toMilli.micros = t.micros / 1000 * 1000 := by
  simp only [toMilli, micros, TimeOfDay.micros, microsPerDay]
  omega

namespace Timestamp

/-! ## Numbers in digits -/

theorem padded_one {n : Nat} (h : n < 10) : padded 1 n = [n.digitChar] := by
  rw [padded, Nat.toDigits_of_lt_base h]
  rfl

theorem padded_succ (width n : Nat) :
    padded (width + 2) n = padded (width + 1) (n / 10) ++ [(n % 10).digitChar] := by
  by_cases h : n < 10
  · simp only [padded, Nat.toDigits_of_lt_base h, Nat.div_eq_of_lt h, Nat.mod_eq_of_lt h,
      Nat.toDigits_zero]
    simp [List.replicate_succ']
  · have zeros : width + 2 - ((Nat.toDigits 10 (n / 10)).length + 1) =
        width + 1 - (Nat.toDigits 10 (n / 10)).length := by omega
    simp only [padded, Nat.toDigits_of_base_le (by decide) (Nat.not_lt.1 h), List.length_append,
      List.length_singleton, List.append_assoc, zeros]

theorem padded_two {n : Nat} (h : n < 100) :
    padded 2 n = [(n / 10).digitChar, (n % 10).digitChar] := by
  rw [padded_succ, padded_one (by omega)]
  rfl

theorem padded_three {n : Nat} (h : n < 1000) :
    padded 3 n = [(n / 100).digitChar, (n / 10 % 10).digitChar, (n % 10).digitChar] := by
  rw [padded_succ, padded_two (by omega), Nat.div_div_eq_div_mul]
  rfl

theorem padded_four {n : Nat} (h : n < 10000) :
    padded 4 n = [(n / 1000).digitChar, (n / 100 % 10).digitChar, (n / 10 % 10).digitChar,
      (n % 10).digitChar] := by
  rw [padded_succ, padded_three (by omega), Nat.div_div_eq_div_mul, Nat.div_div_eq_div_mul]
  rfl

/-- A number of four digits is not filled up. -/
theorem padded_of_le {n : Nat} (h : 1000 ≤ n) : padded 4 n = Nat.toDigits 10 n := by
  have long : ¬ (Nat.toDigits 10 n).length ≤ 3 := by
    rw [Nat.length_toDigits_le_iff (by decide) (by decide)]
    omega
  rw [padded, show 4 - (Nat.toDigits 10 n).length = 0 by omega]
  rfl

theorem digitValue?_digitChar {n : Nat} (h : n < 10) : digitValue? n.digitChar = some n := by
  rw [digitValue?_of_isDigit (isDigit_digitChar h), Nat.toNat_digitChar_sub_48_of_lt_ten h]

theorem asciiDigit?_digitChar {n : Nat} (h : n < 10) : asciiDigit? n.digitChar = some n := by
  rw [asciiDigit?_of_isDigit (isDigit_digitChar h), Nat.toNat_digitChar_sub_48_of_lt_ten h]

theorem twoDigits?_digitChar (loose : Nat → Bool) {n : Nat} (h : n < 100) :
    twoDigits? loose (n / 10).digitChar (n % 10).digitChar = some n := by
  have value : 10 * (n / 10) + n % 10 = n := Nat.div_add_mod n 10
  rw [twoDigits?, asciiDigit?_digitChar (by omega), asciiDigit?_digitChar (by omega),
    digitValue?_digitChar (by omega)]
  cases loose (n / 10) <;> simp [value]

theorem year?_digitChar {n : Nat} (h : n < 10000) :
    year? (n / 1000).digitChar (n / 100 % 10).digitChar (n / 10 % 10).digitChar
      (n % 10).digitChar = some n := by
  have value : 1000 * (n / 1000) + 100 * (n / 100 % 10) + 10 * (n / 10 % 10) + n % 10 = n := by
    omega
  rw [year?, digitValue?_digitChar (by omega), digitValue?_digitChar (by omega),
    digitValue?_digitChar (by omega), digitValue?_digitChar (by omega)]
  simp [value]

theorem milli?_digitChar {n : Nat} (h : n < 1000) :
    milli? (n / 100).digitChar (n / 10 % 10).digitChar (n % 10).digitChar = some n := by
  have value : 100 * (n / 100) + 10 * (n / 10 % 10) + n % 10 = n := by omega
  rw [milli?, asciiDigit?_digitChar (by omega), asciiDigit?_digitChar (by omega),
    asciiDigit?_digitChar (by omega)]
  simp [value]

/-- A row of ASCII digits is the number, filled up with zeros. -/
theorem Row.padded_eq {width n : Nat} {t : Text} (row : Row (width + 1) t n)
    (ascii : ∀ c ∈ t, c.toNat < 128) : padded (width + 1) n = t := by
  induction t using List.reverseRecOn generalizing width n with
  | nil => cases row.length
  | append_singleton t c ih =>
    obtain ⟨length, digits, written⟩ := row
    have digit := isDigit_of_ascii (ascii c (by simp)) (digits c (by simp))
    have code := isDigit_iff.1 digit
    have shown : (c.toNat - 48).digitChar = c := by
      rw [← Char.toNat_inj, Nat.toNat_digitChar_of_lt_ten (by omega)]
      omega
    have value : n = 10 * Numeral.written t + (c.toNat - 48) := by
      rw [← written, Numeral.written, List.map_append, List.map_singleton,
        Numeral.value_append_singleton, digitValue?_of_isDigit digit]
      rfl
    cases width with
    | zero =>
      obtain rfl : t = [] := List.eq_nil_of_length_eq_zero (by simpa using length)
      have small : n = c.toNat - 48 := value.trans (Nat.zero_add _)
      rw [small, padded_one (by omega), shown]
      rfl
    | succ width =>
      have rest := ih
        ⟨by simpa using length, fun x mem => digits x (List.mem_append_left _ mem), rfl⟩
        (fun x mem => ascii x (List.mem_append_left _ mem))
      rw [padded_succ, show n / 10 = Numeral.written t by omega,
        show n % 10 = c.toNat - 48 by omega, rest, shown]

/-! ## Whole timestamps -/

/-- The numbers in rows of ASCII digits, with the marks of a timestamp. -/
def Fields.spell (f : Fields) : Text :=
  padded 4 f.year ++ '-' :: (padded 2 f.month ++ '-' :: (padded 2 f.day ++
    'T' :: (padded 2 f.hour ++ ':' :: (padded 2 f.minute ++
      ':' :: (padded 2 f.second ++ '.' :: (padded 3 f.milli ++ ['Z']))))))

/-- An ASCII text is told by the numbers that it shows. -/
theorem Shows.spell_eq {f : Fields} {t : Text} (shows : Shows f t)
    (ascii : ∀ c ∈ t, c.toNat < 128) : f.spell = t := by
  cases shows with
  | rows year month day hour minute second milli =>
    simp only [List.mem_append, List.mem_cons] at ascii
    rw [Fields.spell, year.padded_eq (by grind), month.padded_eq (by grind),
      day.padded_eq (by grind), hour.padded_eq (by grind), minute.padded_eq (by grind),
      second.padded_eq (by grind), milli.padded_eq (by grind)]

theorem read?_spell {f : Fields} (fits : f.Fits) : read? f.spell = f.toDateTime? := by
  rw [Fields.spell, padded_four fits.year, padded_two fits.month, padded_two fits.day,
    padded_two fits.hour, padded_two fits.minute, padded_two fits.second, padded_three fits.milli]
  simp [read?, year?_digitChar fits.year, month?, day?, hour?, sixtieth?,
    twoDigits?_digitChar _ fits.month, twoDigits?_digitChar _ fits.day,
    twoDigits?_digitChar _ fits.hour, twoDigits?_digitChar _ fits.minute,
    twoDigits?_digitChar _ fits.second, milli?_digitChar fits.milli, Fields.toDateTime?]

theorem write_eq_spell {t : DateTime} (late : 1000 ≤ t.date.year) :
    write t = (Fields.ofDateTime t).spell := by
  rw [write, ← padded_of_le late]
  rfl

/-- **A timestamp with a year of four digits is read back.** -/
theorem read?_write {t : DateTime} (late : 1000 ≤ t.date.year) (milli : t.time.micro % 1000 = 0) :
    read? (write t) = some t := by
  rw [write_eq_spell late, read?_spell (Fields.fits_ofDateTime t),
    Fields.toDateTime?_ofDateTime milli]

theorem write_toMilli (t : DateTime) : write t.toMilli = write t := by
  simp only [write, DateTime.toMilli, Nat.mul_div_cancel _ (show 0 < 1000 by decide)]

/-- The timestamp of any date and time with a year of four digits is read as its millisecond. -/
theorem read?_write_eq_toMilli {t : DateTime} (late : 1000 ≤ t.date.year) :
    read? (write t) = some t.toMilli := by
  rw [← write_toMilli]
  exact read?_write late (Nat.mul_mod_left _ _)

/-- A timestamp with a year of fewer digits is not read. -/
theorem read?_write_of_early {t : DateTime} (early : t.date.year < 1000) :
    read? (write t) = none := by
  have short : (Nat.toDigits 10 t.date.year).length ≤ 3 :=
    (Nat.length_toDigits_le_iff (by decide) (by decide)).2 early
  have fits := Fields.fits_ofDateTime t
  cases read : read? (write t) with
  | none => rfl
  | some d =>
    have long := length_of_read? read
    rw [write, padded_two (show t.date.month < 100 from fits.month),
      padded_two (show t.date.day < 100 from fits.day),
      padded_two (show t.time.hour < 100 from fits.hour),
      padded_two (show t.time.minute < 100 from fits.minute),
      padded_two (show t.time.second < 100 from fits.second),
      padded_three (show t.time.micro / 1000 < 1000 from fits.milli)] at long
    simp only [List.cons_append, List.nil_append, List.length_append, List.length_cons,
      List.length_nil] at long
    omega

end Timestamp

end Criteria
