import Criteria.Time.Calendar
import Mathlib.Data.List.Lex
import Mathlib.Order.Basic

/-!
# Days in a row

The days of the calendar are numbered without a gap: the day after has the next number, and the
first and the last day have the least and the greatest one. Later days have greater numbers, so the
number tells the day, and the microseconds tell the date and time.
-/

namespace Criteria
set_option autoImplicit false

theorem monthLength_le (year month : Nat) : monthLength year month ≤ 31 := by
  unfold monthLength
  split_ifs <;> omega

/-- Every month has 28 days at least. -/
theorem le_monthLength {month : Nat} (year : Nat) (h : 1 ≤ month ∧ month ≤ 12) :
    28 ≤ monthLength year month := by
  simp only [monthLength, Bool.and_eq_true, Bool.or_eq_true, beq_iff_eq, decide_eq_true_eq]
  split_ifs <;> omega

theorem isLeapYear_iff {year : Nat} :
    isLeapYear year = true ↔ 4 ∣ year ∧ (100 ∣ year → 400 ∣ year) := by
  simp only [isLeapYear, Bool.and_eq_true, Bool.or_eq_true, beq_iff_eq, bne_iff_ne,
    ← Nat.dvd_iff_mod_eq_zero, ne_eq]
  tauto

/-- The days of a month: up to 31 of them, but 30 in four of the months, and 28 in February or 29 if
the year is a leap year. -/
theorem le_monthLength_iff {year month day : Nat} (h : 1 ≤ month ∧ month ≤ 12) :
    day ≤ monthLength year month ↔ day ≤ 31 ∧ (month ∈ [4, 6, 9, 11] → day ≤ 30) ∧
      (month = 2 → day ≤ 29 ∧ (day = 29 → 4 ∣ year ∧ (100 ∣ year → 400 ∣ year))) := by
  rw [← isLeapYear_iff]
  by_cases february : month = 2
  · subst february
    cases leap : isLeapYear year <;> simp [monthLength, leap] <;> omega
  · simp only [monthLength, Bool.and_eq_true, Bool.or_eq_true, beq_iff_eq, decide_eq_true_eq,
      List.mem_cons, List.not_mem_nil, or_false, february, if_false, false_imp_iff, and_true]
    split_ifs <;> omega

namespace Date

theorem ofParts?_self (d : Date) : ofParts? d.year d.month d.day = some d :=
  dif_pos ⟨d.year_mem, d.month_mem, d.day_mem⟩

theorem ofParts?_eq_some_iff {year month day : Nat} {d : Date} :
    ofParts? year month day = some d ↔ d.year = year ∧ d.month = month ∧ d.day = day := by
  constructor
  · intro found
    unfold ofParts? at found
    split at found
    · cases found
      exact ⟨rfl, rfl, rfl⟩
    · cases found
  · rintro ⟨rfl, rfl, rfl⟩
    exact ofParts?_self d

theorem ofParts?_eq_none_iff {year month day : Nat} :
    ofParts? year month day = none ↔ ¬ ((1 ≤ year ∧ year ≤ 9999) ∧ (1 ≤ month ∧ month ≤ 12) ∧
      (1 ≤ day ∧ day ≤ monthLength year month)) := by
  unfold ofParts?
  split <;> simp [*]

theorem eq_of_parts {d e : Date} (same : d.year = e.year ∧ d.month = e.month ∧ d.day = e.day) :
    d = e := by
  have found := ofParts?_eq_some_iff.2 same
  rw [ofParts?_self] at found
  exact (Option.some.inj found).symm

/-! ## Numbers of days -/

/-- The number of days in the years before the given one. -/
def yearStart (year : Nat) : Nat :=
  365 * (year - 1) + (year - 1) / 4 - (year - 1) / 100 + (year - 1) / 400

/-- The number of days in the months before the given one of the same year. -/
def monthStart (year month : Nat) : Nat :=
  (List.range (month - 1)).foldl (fun days m => days + monthLength year (m + 1)) 0

theorem yearStart_succ {year : Nat} (h : 1 ≤ year) :
    yearStart (year + 1) = yearStart year + if isLeapYear year then 366 else 365 := by
  obtain ⟨n, rfl⟩ := Nat.exists_eq_add_of_le' h
  have fewer : n / 100 ≤ n / 4 := Nat.div_le_div_left (by decide) (by decide)
  have four : 100 ∣ n + 1 → 4 ∣ n + 1 := Nat.dvd_trans (by decide)
  have hundred : 400 ∣ n + 1 → 100 ∣ n + 1 := Nat.dvd_trans (by decide)
  simp only [yearStart, isLeapYear_iff, Nat.add_sub_cancel, Nat.succ_div]
  generalize n / 4 = fours, n / 100 = hundreds at *
  by_cases h4 : 4 ∣ n + 1 <;> by_cases h100 : 100 ∣ n + 1 <;> by_cases h400 : 400 ∣ n + 1 <;>
    simp only [h4, h100, h400, true_implies, false_imp_iff, and_true, and_false, if_true,
      if_false] at * <;>
    omega

theorem yearStart_le {a b : Nat} (pos : 1 ≤ a) (h : a ≤ b) : yearStart a ≤ yearStart b := by
  induction b, h using Nat.le_induction with
  | base => exact Nat.le_refl _
  | succ b le ih =>
    rw [yearStart_succ (Nat.le_trans pos le)]
    exact Nat.le_add_right_of_le ih

theorem monthStart_succ {month : Nat} (year : Nat) (h : 1 ≤ month) :
    monthStart year (month + 1) = monthStart year month + monthLength year month := by
  obtain ⟨n, rfl⟩ := Nat.exists_eq_add_of_le' h
  simp [monthStart, List.range_succ]

theorem monthStart_le {a b : Nat} (year : Nat) (pos : 1 ≤ a) (h : a ≤ b) :
    monthStart year a ≤ monthStart year b := by
  induction b, h using Nat.le_induction with
  | base => exact Nat.le_refl _
  | succ b le ih =>
    rw [monthStart_succ year (Nat.le_trans pos le)]
    exact Nat.le_add_right_of_le ih

/-- The months of a year make up the year. -/
theorem monthStart_thirteen (year : Nat) :
    monthStart year 13 = if isLeapYear year then 366 else 365 := by
  cases leap : isLeapYear year <;> simp [monthStart, List.range_succ, monthLength, leap]

theorem dayNumber_eq (d : Date) :
    d.dayNumber = yearStart d.year + monthStart d.year d.month + d.day := by
  -- Both sums run over the same months, but one of them starts from the day.
  have from_day (f : Nat → Nat) (ms : List Nat) (a b : Nat) :
      ms.foldl (fun days m => days + f m) (a + b) = ms.foldl (fun days m => days + f m) a + b := by
    induction ms generalizing a with
    | nil => rfl
    | cons m ms ih => rw [List.foldl_cons, List.foldl_cons, Nat.add_right_comm, ih]
  have days := from_day (fun m => monthLength d.year (m + 1)) (List.range (d.month - 1)) 0 d.day
  rw [Nat.zero_add] at days
  rw [dayNumber, days]
  exact (Nat.add_assoc _ _ _).symm

/-- A day lies in its month, and its month in its year. -/
theorem dayNumber_mem (d : Date) :
    yearStart d.year < d.dayNumber ∧
      d.dayNumber ≤ yearStart d.year + monthStart d.year (d.month + 1) ∧
      d.dayNumber ≤ yearStart (d.year + 1) := by
  have day := d.day_mem
  have months := monthStart_le d.year (Nat.le_add_left 1 d.month)
    (Nat.add_le_add_right d.month_mem.2 1)
  rw [monthStart_thirteen] at months
  rw [yearStart_succ d.year_mem.1, dayNumber_eq]
  rw [monthStart_succ d.year d.month_mem.1] at months ⊢
  omega

/-- Later days have greater numbers. -/
theorem dayNumber_lt {d e : Date} (later : d.year < e.year ∨ d.year = e.year ∧
    (d.month < e.month ∨ d.month = e.month ∧ d.day < e.day)) : d.dayNumber < e.dayNumber := by
  have within := d.dayNumber_mem
  have start := e.dayNumber_mem
  rcases later with year | ⟨year, month | ⟨month, day⟩⟩
  · have years := yearStart_le (Nat.le_add_left 1 d.year) (show d.year + 1 ≤ e.year from year)
    omega
  · have months := monthStart_le e.year (Nat.le_add_left 1 d.month) (Nat.succ_le_of_lt month)
    have pos := e.day_mem
    rw [dayNumber_eq e, ← year] at *
    omega
  · rw [dayNumber_eq, dayNumber_eq, year, month]
    omega

theorem dayNumber_injective {d e : Date} (same : d.dayNumber = e.dayNumber) : d = e := by
  have ahead : ¬ d.dayNumber < e.dayNumber := by omega
  have behind : ¬ e.dayNumber < d.dayNumber := by omega
  have not_ahead := mt dayNumber_lt ahead
  have not_behind := mt dayNumber_lt behind
  apply eq_of_parts
  omega

/-! ## Neighbours -/

/-- The first day of the calendar. -/
def first : Date := ⟨1, 1, 1, by decide, by decide, by decide⟩

/-- The last day of the calendar. -/
def last : Date := ⟨9999, 12, 31, by decide, by decide, by decide⟩

theorem dayNumber_first : first.dayNumber = 1 := by decide

theorem dayNumber_last : last.dayNumber = 3652059 := by decide

theorem dayNumber_le (d : Date) : d.dayNumber ≤ last.dayNumber :=
  Nat.le_trans d.dayNumber_mem.2.2
    (yearStart_le (Nat.le_add_left 1 d.year) (Nat.add_le_add_right d.year_mem.2 1))

theorem dayNumber_of_next? {d e : Date} (next : d.next? = some e) :
    e.dayNumber = d.dayNumber + 1 := by
  have day := d.day_mem
  have month := d.month_mem
  unfold next? at next
  split_ifs at next with inMonth inYear
  · obtain ⟨eYear, eMonth, eDay⟩ := ofParts?_eq_some_iff.1 next
    rw [dayNumber_eq, dayNumber_eq, eYear, eMonth, eDay]
    omega
  · obtain ⟨eYear, eMonth, eDay⟩ := ofParts?_eq_some_iff.1 next
    rw [dayNumber_eq, dayNumber_eq, eYear, eMonth, eDay, monthStart_succ d.year month.1]
    omega
  · -- The last day of December ends the year.
    obtain ⟨eYear, eMonth, eDay⟩ := ofParts?_eq_some_iff.1 next
    have december : d.month = 12 := by omega
    have year := monthStart_succ d.year month.1
    rw [december, monthStart_thirteen] at year
    rw [december] at day inMonth
    rw [dayNumber_eq, dayNumber_eq, eYear, eMonth, eDay, december, yearStart_succ d.year_mem.1,
      show monthStart (d.year + 1) 1 = 0 from rfl]
    omega

theorem dayNumber_of_previous? {d e : Date} (previous : d.previous? = some e) :
    e.dayNumber + 1 = d.dayNumber := by
  have day := d.day_mem
  have month := d.month_mem
  unfold previous? at previous
  split_ifs at previous with inMonth inYear
  · obtain ⟨eYear, eMonth, eDay⟩ := ofParts?_eq_some_iff.1 previous
    rw [dayNumber_eq, dayNumber_eq, eYear, eMonth, eDay]
    omega
  · obtain ⟨eYear, eMonth, eDay⟩ := ofParts?_eq_some_iff.1 previous
    have before := monthStart_succ d.year (show 1 ≤ d.month - 1 by omega)
    rw [Nat.sub_add_cancel month.1] at before
    rw [dayNumber_eq, dayNumber_eq, eYear, eMonth, eDay, before]
    omega
  · obtain ⟨eYear, eMonth, eDay⟩ := ofParts?_eq_some_iff.1 previous
    have year : d.year = e.year + 1 := by
      have pos := e.year_mem
      omega
    have december := monthStart_succ e.year (show 1 ≤ 12 by decide)
    rw [monthStart_thirteen, show monthLength e.year 12 = 31 from rfl] at december
    rw [dayNumber_eq, dayNumber_eq, eMonth, eDay, year, yearStart_succ e.year_mem.1,
      show d.month = 1 by omega, show monthStart (e.year + 1) 1 = 0 from rfl]
    omega

/-- Only the last day has no day after it. -/
theorem dayNumber_of_next?_eq_none {d : Date} (none : d.next? = none) :
    d.dayNumber = last.dayNumber := by
  have year := d.year_mem
  have month := d.month_mem
  have day := d.day_mem
  unfold next? at none
  split_ifs at none with inMonth inYear
  · exact absurd ⟨year, month, by omega⟩ (ofParts?_eq_none_iff.1 none)
  · have length := le_monthLength d.year (show 1 ≤ d.month + 1 ∧ d.month + 1 ≤ 12 by omega)
    exact absurd ⟨year, by omega, by omega⟩ (ofParts?_eq_none_iff.1 none)
  · have length := le_monthLength (d.year + 1) (show 1 ≤ 1 ∧ 1 ≤ 12 by decide)
    have lastYear : d.year = 9999 := by
      have outside := ofParts?_eq_none_iff.1 none
      omega
    have december : d.month = 12 := by omega
    rw [lastYear, december, show monthLength 9999 12 = 31 from rfl] at day inMonth
    rw [dayNumber_eq, lastYear, december, show d.day = 31 by omega]
    rfl

/-- Only the first day has no day before it. -/
theorem dayNumber_of_previous?_eq_none {d : Date} (none : d.previous? = none) :
    d.dayNumber = first.dayNumber := by
  have year := d.year_mem
  have month := d.month_mem
  have day := d.day_mem
  unfold previous? at none
  split_ifs at none with inMonth inYear
  · exact absurd ⟨year, month, by omega⟩ (ofParts?_eq_none_iff.1 none)
  · have length := le_monthLength d.year (show 1 ≤ d.month - 1 ∧ d.month - 1 ≤ 12 by omega)
    exact absurd ⟨year, by omega, by omega⟩ (ofParts?_eq_none_iff.1 none)
  · have firstYear : d.year = 1 := by
      have outside := ofParts?_eq_none_iff.1 none
      have length : monthLength (d.year - 1) 12 = 31 := rfl
      omega
    rw [dayNumber_eq, firstYear, show d.month = 1 by omega, show d.day = 1 by omega]
    rfl

end Date

/-! ## Times of day -/

namespace TimeOfDay

theorem ofParts?_self (t : TimeOfDay) :
    ofParts? t.hour t.minute t.second t.micro = some t :=
  dif_pos ⟨t.hour_lt, t.minute_lt, t.second_lt, t.micro_lt⟩

theorem ofParts?_eq_some_iff {hour minute second micro : Nat} {t : TimeOfDay} :
    ofParts? hour minute second micro = some t ↔
      t.hour = hour ∧ t.minute = minute ∧ t.second = second ∧ t.micro = micro := by
  constructor
  · intro found
    unfold ofParts? at found
    split at found
    · cases found
      exact ⟨rfl, rfl, rfl, rfl⟩
    · cases found
  · rintro ⟨rfl, rfl, rfl, rfl⟩
    exact ofParts?_self t

theorem micros_lt (t : TimeOfDay) : t.micros < microsPerDay := by
  have hour := t.hour_lt
  have minute := t.minute_lt
  have second := t.second_lt
  have micro := t.micro_lt
  simp only [micros, microsPerDay]
  omega

theorem ofMicros_micros (t : TimeOfDay) : ofMicros t.micros = t := by
  obtain ⟨hour, minute, second, micro, hour_lt, minute_lt, second_lt, micro_lt⟩ := t
  simp only [ofMicros, micros, mk.injEq]
  omega

theorem micros_ofMicros {n : Nat} (h : n < microsPerDay) : (ofMicros n).micros = n := by
  simp only [ofMicros, micros, microsPerDay] at *
  omega

end TimeOfDay

namespace DateTime

theorem ofParts?_self (t : DateTime) :
    ofParts? t.date.year t.date.month t.date.day t.time.hour t.time.minute t.time.second
      t.time.micro = some t := by
  rw [ofParts?, Date.ofParts?_self, TimeOfDay.ofParts?_self]
  rfl

theorem ofParts?_eq_some_iff {year month day hour minute second micro : Nat} {t : DateTime} :
    ofParts? year month day hour minute second micro = some t ↔
      (t.date.year = year ∧ t.date.month = month ∧ t.date.day = day) ∧
        t.time.hour = hour ∧ t.time.minute = minute ∧ t.time.second = second ∧
          t.time.micro = micro := by
  constructor
  · intro found
    obtain ⟨date, day, rest⟩ := Option.bind_eq_some_iff.1 found
    obtain ⟨time, clock, eq⟩ := Option.bind_eq_some_iff.1 rest
    cases eq
    exact ⟨Date.ofParts?_eq_some_iff.1 day, TimeOfDay.ofParts?_eq_some_iff.1 clock⟩
  · rintro ⟨⟨rfl, rfl, rfl⟩, rfl, rfl, rfl, rfl⟩
    exact ofParts?_self t

theorem exists_ofParts?_iff {year month day hour minute second micro : Nat} :
    (∃ t, ofParts? year month day hour minute second micro = some t) ↔
      ((1 ≤ year ∧ year ≤ 9999) ∧ (1 ≤ month ∧ month ≤ 12) ∧
          (1 ≤ day ∧ day ≤ monthLength year month)) ∧
        hour < 24 ∧ minute < 60 ∧ second < 60 ∧ micro < 1000000 := by
  constructor
  · rintro ⟨t, found⟩
    obtain ⟨⟨rfl, rfl, rfl⟩, rfl, rfl, rfl, rfl⟩ := ofParts?_eq_some_iff.1 found
    exact ⟨⟨t.date.year_mem, t.date.month_mem, t.date.day_mem⟩,
      t.time.hour_lt, t.time.minute_lt, t.time.second_lt, t.time.micro_lt⟩
  · rintro ⟨⟨year_mem, month_mem, day_mem⟩, hour_lt, minute_lt, second_lt, micro_lt⟩
    exact ⟨⟨⟨year, month, day, year_mem, month_mem, day_mem⟩,
      ⟨hour, minute, second, micro, hour_lt, minute_lt, second_lt, micro_lt⟩⟩,
      ofParts?_eq_some_iff.2 ⟨⟨rfl, rfl, rfl⟩, rfl, rfl, rfl, rfl⟩⟩

theorem micros_injective {t u : DateTime} (same : t.micros = u.micros) : t = u := by
  obtain ⟨date, time⟩ := t
  obtain ⟨date', time'⟩ := u
  have lt := time.micros_lt
  have lt' := time'.micros_lt
  simp only [micros, microsPerDay] at same lt lt'
  obtain rfl : date = date' := Date.dayNumber_injective (by omega)
  rw [← time.ofMicros_micros, ← time'.ofMicros_micros, show time.micros = time'.micros by omega]

end DateTime

end Criteria
