import Criteria.Proofs.Time.Timestamp
import Criteria.Value.Reading

/-!
# The shape of timestamps

A timestamp is a text of the shape `dddd-dd-ddTdd:dd:dd.dddZ`, and what is read from it are the
numbers that its rows of digits write. Of the ASCII texts of this shape exactly those are read whose
numbers name a day of the calendar and a time of that day.
-/

namespace Criteria
set_option autoImplicit false

namespace Timestamp

/-- The calendar has the day, and the day has the time. -/
structure Fields.InCalendar (f : Fields) : Prop where
  year : 1 ≤ f.year ∧ f.year ≤ 9999
  month : 1 ≤ f.month ∧ f.month ≤ 12
  day : 1 ≤ f.day ∧ f.day ≤ 31
  /-- April, June, September and November have 30 days. -/
  short : f.month ∈ [4, 6, 9, 11] → f.day ≤ 30
  /-- February has 29 days in leap years, and 28 in all others. -/
  february : f.month = 2 →
    f.day ≤ 29 ∧ (f.day = 29 → 4 ∣ f.year ∧ (100 ∣ f.year → 400 ∣ f.year))
  hour : f.hour ≤ 23
  minute : f.minute ≤ 59
  second : f.second ≤ 59

theorem exists_toDateTime?_iff {f : Fields} (fits : f.Fits) :
    (∃ d, f.toDateTime? = some d) ↔ f.InCalendar := by
  have milli := fits.milli
  rw [Fields.toDateTime?, DateTime.exists_ofParts?_iff]
  constructor
  · rintro ⟨⟨year, month, day⟩, hour, minute, second, -⟩
    obtain ⟨days, short, february⟩ := (le_monthLength_iff month).1 day.2
    exact ⟨year, month, ⟨day.1, days⟩, short, february, by omega, by omega, by omega⟩
  · intro h
    have days := (le_monthLength_iff h.month).2 ⟨h.day.2, h.short, h.february⟩
    have hour := h.hour
    have minute := h.minute
    have second := h.second
    exact ⟨⟨h.year, h.month, h.day.1, days⟩, by omega, by omega, by omega, by omega⟩

/-- **Timestamps are exactly the days of the calendar.** What is read from a text are, in universal
time, the numbers that its rows of digits write, and the text has 24 characters in the shape of a
timestamp. Conversely an ASCII text of that shape is read exactly if the calendar has the day and the
day has the time. No other ASCII text is read, and no text with a line feed at its end. -/
theorem read?_exact (t : Text) :
    (∀ d, read? t = some d → t.length = 24 ∧ Shows (.ofDateTime d) t ∧
      d.time.micro = 1000 * (Fields.ofDateTime d).milli ∧
      ∀ s, ScalarRule.timestamp.read s t = some (.moment (.utc d))) ∧
    ((∀ c ∈ t, c.toNat < 128) → ∀ f, Shows f t → ((∃ d, read? t = some d) ↔ f.InCalendar)) ∧
    ((∀ c ∈ t, c.toNat < 128) → (∀ f, ¬ Shows f t) → read? t = none) ∧
    read? (t ++ ['\n']) = none := by
  refine ⟨?_, ?_, ?_, ?_⟩
  · intro d read
    obtain ⟨shows, micro⟩ := shows_of_read? read
    refine ⟨length_of_read? read, shows, micro, fun s => ?_⟩
    rw [ScalarRule.read, read]
    rfl
  · intro ascii f shows
    rw [← shows.spell_eq ascii, read?_spell shows.fits, exists_toDateTime?_iff shows.fits]
  · intro _ other
    cases read : read? t with
    | none => rfl
    | some d => exact absurd (shows_of_read? read).1 (other _)
  · cases read : read? (t ++ ['\n']) with
    | none => rfl
    | some d =>
      exact absurd (isDecimalDigit_of_read? read '\n' (by simp)) (by decide)

/-- The last millisecond of a leap day. -/
theorem read?_exact_leap_day :
    let t := "2000-02-29T23:59:59.999Z".toList
    let f : Fields := ⟨2000, 2, 29, 23, 59, 59, 999⟩
    (∀ c ∈ t, c.toNat < 128) ∧ Shows f t ∧ f.InCalendar ∧
      ∃ d, read? t = some d ∧ t.length = 24 ∧ Shows (.ofDateTime d) t := by
  intro t f
  have ascii : ∀ c ∈ t, c.toNat < 128 := by simp [t]
  have year : Row 4 "2000".toList f.year := ⟨rfl, List.all_eq_true.1 rfl, rfl⟩
  have month : Row 2 "02".toList f.month := ⟨rfl, List.all_eq_true.1 rfl, rfl⟩
  have day : Row 2 "29".toList f.day := ⟨rfl, List.all_eq_true.1 rfl, rfl⟩
  have hour : Row 2 "23".toList f.hour := ⟨rfl, List.all_eq_true.1 rfl, rfl⟩
  have sixtieth : Row 2 "59".toList 59 := ⟨rfl, List.all_eq_true.1 rfl, rfl⟩
  have milli : Row 3 "999".toList f.milli := ⟨rfl, List.all_eq_true.1 rfl, rfl⟩
  have shows : Shows f t := .rows year month day hour sixtieth sixtieth milli
  have calendar : f.InCalendar := by constructor <;> decide
  obtain ⟨sound, complete, -⟩ := read?_exact t
  obtain ⟨d, read⟩ := (complete ascii f shows).2 calendar
  obtain ⟨length, numbers, -⟩ := sound d read
  exact ⟨ascii, shows, calendar, d, read, length, numbers⟩

end Timestamp

end Criteria
