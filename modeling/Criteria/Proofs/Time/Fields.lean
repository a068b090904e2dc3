import Criteria.Proofs.Number.Numeral
import Criteria.Proofs.Time.Calendar
import Criteria.Time.Timestamp
import Mathlib.Data.List.Forall2

/-!
# The numbers in a timestamp

A text that is read as a timestamp consists of rows of digits between fixed marks, and the date and
time that is read has the numbers that the rows write.
-/

namespace Criteria
set_option autoImplicit false

namespace Timestamp

/-! ## Rows of digits -/

/-- A row of digits of any script that writes the number. -/
structure Row (width : Nat) (t : Text) (n : Nat) : Prop where
  length : t.length = width
  digits : ∀ c ∈ t, isDecimalDigit c = true
  written : Numeral.written t = n

namespace Row

theorem of_digits {t : Text} {ds : List Nat}
    (values : List.Forall₂ (fun c d => digitValue? c = some d) t ds) :
    Row ds.length t (Numeral.value ds) := by
  have spelled : t.map (fun c => (digitValue? c).getD 0) = ds ∧
      ∀ c ∈ t, isDecimalDigit c = true := by
    induction values with
    | nil => exact ⟨rfl, nofun⟩
    | cons head _ ih =>
      rw [List.map_cons, head, ih.1]
      exact ⟨rfl, List.forall_mem_cons.2 ⟨isDecimalDigit_of_digitValue? head, ih.2⟩⟩
  exact ⟨values.length_eq, spelled.2, by rw [Numeral.written, spelled.1]⟩

theorem of_twoDigits? {loose : Nat → Bool} {a b : Char} {n : Nat}
    (read : twoDigits? loose a b = some n) : Row 2 [a, b] n := by
  obtain ⟨tens, first, rest⟩ := Option.bind_eq_some_iff.1 read
  have second : ∃ ones, digitValue? b = some ones ∧ 10 * tens + ones = n := by
    split at rest
    · obtain ⟨ones, value, eq⟩ := Option.bind_eq_some_iff.1 rest
      exact ⟨ones, value, Option.some.inj eq⟩
    · obtain ⟨ones, value, eq⟩ := Option.bind_eq_some_iff.1 rest
      exact ⟨ones, digitValue?_of_asciiDigit? value, Option.some.inj eq⟩
  obtain ⟨ones, value, rfl⟩ := second
  simpa [Numeral.value] using of_digits (.cons (digitValue?_of_asciiDigit? first) (.cons value .nil))

theorem of_year? {a b c d : Char} {n : Nat} (read : year? a b c d = some n) :
    Row 4 [a, b, c, d] n := by
  simp only [year?, Option.bind_eq_bind, Option.bind_eq_some_iff] at read
  obtain ⟨i, first, j, second, k, third, l, fourth, eq⟩ := read
  have row := of_digits (.cons first (.cons second (.cons third (.cons fourth .nil))))
  have value : Numeral.value [i, j, k, l] = n := by
    rw [← Option.some.inj eq]
    simp only [Numeral.value, List.foldl_cons, List.foldl_nil]
    omega
  rwa [value] at row

theorem of_milli? {a b c : Char} {n : Nat} (read : milli? a b c = some n) : Row 3 [a, b, c] n := by
  simp only [milli?, Option.bind_eq_bind, Option.bind_eq_some_iff] at read
  obtain ⟨i, first, j, second, k, third, eq⟩ := read
  have row := of_digits (.cons (digitValue?_of_asciiDigit? first)
    (.cons (digitValue?_of_asciiDigit? second) (.cons (digitValue?_of_asciiDigit? third) .nil)))
  have value : Numeral.value [i, j, k] = n := by
    rw [← Option.some.inj eq]
    simp only [Numeral.value, List.foldl_cons, List.foldl_nil]
    omega
  rwa [value] at row

theorem lt {width : Nat} {t : Text} {n : Nat} (row : Row width t n) : n < 10 ^ width := by
  obtain ⟨rfl, digits, rfl⟩ := row
  have small : ∀ d ∈ t.map (fun c => (digitValue? c).getD 0), d < 10 := by
    intro d mem
    obtain ⟨c, char, rfl⟩ := List.mem_map.1 mem
    obtain ⟨d, value⟩ := Option.isSome_iff_exists.1 (digits c char)
    rw [value]
    exact digitValue?_lt value
  simpa [Numeral.written] using Numeral.value_lt small

end Row

/-! ## Numbers -/

/-- The numbers in a timestamp. -/
structure Fields where
  year : Nat
  month : Nat
  day : Nat
  hour : Nat
  minute : Nat
  second : Nat
  milli : Nat
deriving DecidableEq, Repr

namespace Fields

/-- The numbers that a date and time has in its timestamp. -/
def ofDateTime (t : DateTime) : Fields where
  year := t.date.year
  month := t.date.month
  day := t.date.day
  hour := t.time.hour
  minute := t.time.minute
  second := t.time.second
  milli := t.time.micro / 1000

/-- The date and time with these numbers, if there is one. -/
def toDateTime? (f : Fields) : Option DateTime :=
  DateTime.ofParts? f.year f.month f.day f.hour f.minute f.second (f.milli * 1000)

/-- Each number fits into its row of digits. -/
structure Fits (f : Fields) : Prop where
  year : f.year < 10000
  month : f.month < 100
  day : f.day < 100
  hour : f.hour < 100
  minute : f.minute < 100
  second : f.second < 100
  milli : f.milli < 1000

theorem fits_ofDateTime (t : DateTime) : (ofDateTime t).Fits := by
  have year := t.date.year_mem
  have month := t.date.month_mem
  have day := t.date.day_mem
  have length := monthLength_le t.date.year t.date.month
  have hour := t.time.hour_lt
  have minute := t.time.minute_lt
  have second := t.time.second_lt
  have micro := t.time.micro_lt
  constructor <;> simp only [ofDateTime] <;> omega

theorem toDateTime?_ofDateTime {t : DateTime} (milli : t.time.micro % 1000 = 0) :
    (ofDateTime t).toDateTime? = some t := by
  have whole : t.time.micro / 1000 * 1000 = t.time.micro := by omega
  simp only [toDateTime?, ofDateTime, whole, DateTime.ofParts?_self]

end Fields

/-! ## Rows and marks -/

/-- The text has the shape of a timestamp, and its rows of digits write the numbers. -/
inductive Shows (f : Fields) : Text → Prop
  | rows {year month day hour minute second milli : Text}
      (year_row : Row 4 year f.year) (month_row : Row 2 month f.month) (day_row : Row 2 day f.day)
      (hour_row : Row 2 hour f.hour) (minute_row : Row 2 minute f.minute)
      (second_row : Row 2 second f.second) (milli_row : Row 3 milli f.milli) :
      Shows f (year ++ '-' :: (month ++ '-' :: (day ++ 'T' :: (hour ++ ':' :: (minute ++
        ':' :: (second ++ '.' :: (milli ++ ['Z'])))))))

/-- What is read from a text are the numbers that its rows of digits write. -/
theorem shows_of_read? {t : Text} {d : DateTime} (read : read? t = some d) :
    Shows (.ofDateTime d) t ∧ d.time.micro = 1000 * (d.time.micro / 1000) := by
  unfold read? at read
  split at read
  · split at read
    · next marks =>
      simp only [Bool.and_eq_true, beq_iff_eq] at marks
      obtain ⟨⟨⟨⟨⟨⟨rfl, rfl⟩, rfl⟩, rfl⟩, rfl⟩, rfl⟩, rfl⟩ := marks
      simp only [month?, day?, hour?, sixtieth?, Option.bind_eq_bind,
        Option.bind_eq_some_iff] at read
      obtain ⟨_, year, _, month, _, day, _, hour, _, minute, _, second, _, milli, parts⟩ := read
      obtain ⟨⟨rfl, rfl, rfl⟩, rfl, rfl, rfl, micro⟩ := DateTime.ofParts?_eq_some_iff.1 parts
      obtain rfl := Nat.eq_div_of_mul_eq_left (by decide) micro.symm
      exact ⟨.rows (.of_year? year) (.of_twoDigits? month) (.of_twoDigits? day)
        (.of_twoDigits? hour) (.of_twoDigits? minute) (.of_twoDigits? second) (.of_milli? milli),
        by omega⟩
    · cases read
  · cases read

namespace Shows

variable {f : Fields} {t : Text}

theorem length (shows : Shows f t) : t.length = 24 := by
  cases shows with
  | rows year month day hour minute second milli =>
    simp only [List.length_append, List.length_cons, List.length_nil, year.length, month.length,
      day.length, hour.length, minute.length, second.length, milli.length]

theorem fits (shows : Shows f t) : f.Fits := by
  cases shows with
  | rows year month day hour minute second milli =>
    exact ⟨year.lt, month.lt, day.lt, hour.lt, minute.lt, second.lt, milli.lt⟩

/-- There are digits, of whatever script, and five kinds of marks. -/
theorem isDecimalDigit (shows : Shows f t) :
    ∀ c ∈ t, isDecimalDigit c = true ∨ c ∈ ['-', 'T', ':', '.', 'Z'] := by
  cases shows with
  | rows year month day hour minute second milli =>
    intro c mem
    simp only [List.mem_append, List.mem_cons, List.not_mem_nil, or_false] at mem ⊢
    grind [Row.digits]

end Shows

theorem length_of_read? {t : Text} {d : DateTime} (read : read? t = some d) : t.length = 24 :=
  (shows_of_read? read).1.length

theorem isDecimalDigit_of_read? {t : Text} {d : DateTime} (read : read? t = some d) :
    ∀ c ∈ t, isDecimalDigit c = true ∨ c ∈ ['-', 'T', ':', '.', 'Z'] :=
  (shows_of_read? read).1.isDecimalDigit

/-- Timestamps tell thousandths of a second. -/
theorem micro_of_read? {t : Text} {d : DateTime} (read : read? t = some d) :
    d.time.micro % 1000 = 0 := by
  have milli := (shows_of_read? read).2
  omega

end Timestamp

end Criteria
