import Criteria.Proofs.Time.Shape
import Criteria.Value.Writing

/-!
# Moments in search texts

A moment is written as the timestamp of its universal time. It has no search text exactly if there is
no such time in the years of the calendar, and otherwise its search text is read as the last whole
millisecond that is not later than the moment. An ASCII timestamp is written as it was read.
-/

namespace Criteria
set_option autoImplicit false

namespace Timestamp

/-- An ASCII timestamp is what is written for the date and time read from it. -/
theorem write_of_read? {t : Text} {d : DateTime} (ascii : ∀ c ∈ t, c.toNat < 128)
    (read : read? t = some d) (late : 1000 ≤ d.date.year) : write d = t := by
  rw [write_eq_spell late, (shows_of_read? read).1.spell_eq ascii]

end Timestamp

theorem Value.write_moment (m : Moment) :
    (Value.scalar (.moment m)).write =
      m.toUtc?.elim (.error .yearOutOfRange) fun u => .ok (Timestamp.write u) := by
  rw [Value.write, Scalar.write]
  cases m.toUtc? <;> rfl

/-- **Moments are written to the millisecond.** Writing fails exactly for a moment with a known zone
whose instant lies beyond the years of the calendar. Any other moment has a date and time `u` in
universal time and a search text, which is read, if the year of `u` has four digits, as the last whole
millisecond not later than the moment. An ASCII timestamp of such a year is written as it was
read. -/
theorem write_moment_iff :
    (∀ m : Moment,
      ((Value.scalar (.moment m)).write = .error .yearOutOfRange ↔
        m.offset.isSome = true ∧ m.BeyondYears) ∧
      (¬ (m.offset.isSome = true ∧ m.BeyondYears) →
        ∃ u w, (Moment.utc u).instant = m.instant ∧ (Value.scalar (.moment m)).write = .ok w ∧
          (1000 ≤ u.date.year → ∃ d, Timestamp.read? w = some d ∧
            (Moment.utc d).instant ≤ m.instant ∧ m.instant < (Moment.utc d).instant + 1000 ∧
              1000 ∣ (Moment.utc d).instant))) ∧
    ∀ (t : Text) (d : DateTime), (∀ c ∈ t, c.toNat < 128) → Timestamp.read? t = some d →
      1000 ≤ d.date.year → (Value.scalar (.moment (.utc d))).write = .ok t := by
  refine ⟨fun m => ⟨?_, ?_⟩, ?_⟩
  · rw [← Moment.toUtc?_eq_none_iff, Value.write_moment]
    cases m.toUtc? <;> simp
  · intro within
    rw [← Moment.toUtc?_eq_none_iff] at within
    obtain ⟨u, utc⟩ := Option.ne_none_iff_exists'.1 within
    have instant := Moment.instant_of_toUtc? utc
    refine ⟨u, Timestamp.write u, instant, by rw [Value.write_moment, utc]; rfl, fun late => ?_⟩
    refine ⟨u.toMilli, Timestamp.read?_write_eq_toMilli late, ?_⟩
    rw [← instant, Moment.instant_utc, Moment.instant_utc, DateTime.micros_toMilli]
    omega
  · intro t d ascii read late
    rw [Value.write_moment, Moment.toUtc?_utc, ← Timestamp.write_of_read? ascii read late]
    rfl

/-- A clock that is an hour and a microsecond ahead at the new year, and the first moment of the
calendar on a clock that is a minute ahead. -/
theorem write_moment_iff_new_year :
    let wall : DateTime :=
      ⟨⟨2024, 1, 1, by decide, by decide, by decide⟩, .ofMicros 1800123456⟩
    let m : Moment := ⟨wall, Offset.ofMicros? 3600000001⟩
    let t := "2023-12-31T23:30:00.123Z".toList
    ¬ (m.offset.isSome = true ∧ m.BeyondYears) ∧
      (∃ u w, (Moment.utc u).instant = m.instant ∧ (Value.scalar (.moment m)).write = .ok w ∧
        (1000 ≤ u.date.year → ∃ d, Timestamp.read? w = some d ∧
          (Moment.utc d).instant ≤ m.instant)) ∧
      (Value.scalar (.moment ⟨.first, Offset.ofMinutes? 1⟩)).write = .error .yearOutOfRange ∧
      ∃ d, (∀ c ∈ t, c.toNat < 128) ∧ Timestamp.read? t = some d ∧ 1000 ≤ d.date.year ∧
        (Value.scalar (.moment (.utc d))).write = .ok t := by
  intro wall m t
  have within : ¬ (m.offset.isSome = true ∧ m.BeyondYears) := by
    rw [Moment.BeyondYears]
    decide +kernel
  have beyond : Moment.BeyondYears ⟨.first, Offset.ofMinutes? 1⟩ := by
    rw [Moment.BeyondYears]
    decide +kernel
  have ascii : ∀ c ∈ t, c.toNat < 128 := by simp [t]
  let d : DateTime :=
    ⟨⟨2023, 12, 31, by decide, by decide, by decide⟩, .ofMicros 84600123000⟩
  have read : Timestamp.read? t = some d := by decide +kernel
  obtain ⟨moments, texts⟩ := write_moment_iff
  obtain ⟨u, w, utc, written, late⟩ := (moments m).2 within
  refine ⟨within, ⟨u, w, utc, written, fun year => ?_⟩, (moments _).1.2 ⟨rfl, beyond⟩, d, ascii,
    read, by decide, texts t d ascii read (by decide)⟩
  obtain ⟨d, read, le, -⟩ := late year
  exact ⟨d, read, le⟩

end Criteria
