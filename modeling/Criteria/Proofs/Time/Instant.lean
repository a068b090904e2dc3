import Criteria.Proofs.Time.Calendar

/-!
# Instants

The date and time of a moment in universal time is the one that has its instant. A moment has none
exactly if its clock is off universal time and its instant lies before the year 1 or after the year
9999.
-/

namespace Criteria
set_option autoImplicit false

namespace DateTime

/-- The first microsecond of the year 1. -/
def first : DateTime := ⟨.first, .ofMicros 0⟩

/-- The last microsecond of the year 9999. -/
def last : DateTime := ⟨.last, .ofMicros (microsPerDay - 1)⟩

theorem micros_first : first.micros = 86400000000 := by decide +kernel

theorem micros_last : last.micros = 315537983999999999 := by decide +kernel

theorem le_micros (t : DateTime) : first.micros ≤ t.micros := by
  have day := t.date.dayNumber_mem
  rw [micros_first]
  simp only [micros, microsPerDay]
  omega

theorem micros_le (t : DateTime) : t.micros ≤ last.micros := by
  have day := t.date.dayNumber_le
  have time := t.time.micros_lt
  rw [micros_last]
  simp only [micros, microsPerDay, Date.dayNumber_last] at *
  omega

end DateTime

namespace Moment

/-- The instant lies before the year 1 or after the year 9999 of universal time. -/
def BeyondYears (m : Moment) : Prop :=
  m.instant < DateTime.first.micros ∨ DateTime.last.micros < m.instant

theorem instant_utc (t : DateTime) : (utc t).instant = t.micros := Int.sub_zero _

section Shifted

variable (wall : DateTime) (offset : Offset)

/-- A shifted clock is off by less than a day. -/
theorem clock_mem : -(microsPerDay : Int) < wall.time.micros - offset.micros ∧
    (wall.time.micros - offset.micros : Int) < 2 * microsPerDay := by
  have time := wall.time.micros_lt
  have shift := offset.micros_mem
  omega

theorem instant_shifted : (Moment.mk wall (some offset)).instant =
    wall.date.dayNumber * microsPerDay + (wall.time.micros - offset.micros) := by
  simp only [instant, DateTime.micros, Option.elim_some]
  omega

end Shifted

/-- Shifting a moment to universal time keeps its instant. -/
theorem instant_of_toUtc? {m : Moment} {u : DateTime} (found : m.toUtc? = some u) :
    (utc u).instant = m.instant := by
  obtain ⟨wall, offset⟩ := m
  cases offset with
  | none =>
    cases found
    rfl
  | some offset =>
    have mem := clock_mem wall offset
    rw [instant_utc, instant_shifted]
    simp only [toUtc?, Option.map_eq_some_iff] at found
    obtain ⟨date, day, rfl⟩ := found
    generalize (wall.time.micros - offset.micros : Int) = clock at *
    have time : ((TimeOfDay.ofMicros (clock % microsPerDay).toNat).micros : Int) =
        clock % microsPerDay := by
      rw [TimeOfDay.micros_ofMicros] <;> simp only [microsPerDay] <;> omega
    simp only [DateTime.micros, Int.natCast_add, Int.natCast_mul, time]
    -- The clock shows the day before, the same day or the day after.
    split at day
    · have number := Date.dayNumber_of_previous? day
      simp only [microsPerDay] at *
      omega
    · split at day
      · cases day
        simp only [microsPerDay] at *
        omega
      · have number := Date.dayNumber_of_next? day
        simp only [microsPerDay] at *
        omega

/-- Only a moment beyond the years of the calendar cannot be shifted. -/
theorem beyondYears_of_toUtc? {m : Moment} (lost : m.toUtc? = none) :
    m.offset.isSome = true ∧ m.BeyondYears := by
  obtain ⟨wall, offset⟩ := m
  cases offset with
  | none => cases lost
  | some offset =>
    have mem := clock_mem wall offset
    refine ⟨rfl, ?_⟩
    rw [BeyondYears, instant_shifted, DateTime.micros_first, DateTime.micros_last]
    simp only [toUtc?, Option.map_eq_none_iff] at lost
    generalize (wall.time.micros - offset.micros : Int) = clock at *
    split at lost
    · have number := Date.dayNumber_of_previous?_eq_none lost
      rw [Date.dayNumber_first] at number
      simp only [microsPerDay] at *
      omega
    · split at lost
      · cases lost
      · have number := Date.dayNumber_of_next?_eq_none lost
        rw [Date.dayNumber_last] at number
        simp only [microsPerDay] at *
        omega

/-- **Universal time is told by the instant.** -/
theorem toUtc?_eq_some_iff {m : Moment} {u : DateTime} :
    m.toUtc? = some u ↔ (utc u).instant = m.instant := by
  constructor
  · exact instant_of_toUtc?
  · intro same
    rw [instant_utc] at same
    cases found : m.toUtc? with
    | none =>
      have low := u.le_micros
      have high := u.micros_le
      rcases (beyondYears_of_toUtc? found).2 with early | late <;> omega
    | some v =>
      have other := instant_of_toUtc? found
      rw [instant_utc] at other
      rw [DateTime.micros_injective (show v.micros = u.micros by omega)]

theorem toUtc?_eq_none_iff {m : Moment} :
    m.toUtc? = none ↔ m.offset.isSome = true ∧ m.BeyondYears := by
  constructor
  · exact beyondYears_of_toUtc?
  · rintro ⟨-, beyond⟩
    cases found : m.toUtc? with
    | none => rfl
    | some u =>
      have instant := instant_of_toUtc? found
      have low := u.le_micros
      have high := u.micros_le
      rw [instant_utc] at instant
      rcases beyond with early | late <;> omega

/-- What is given in universal time is in universal time already. -/
theorem toUtc?_utc (t : DateTime) : (utc t).toUtc? = some t := toUtc?_eq_some_iff.2 rfl

end Moment

end Criteria
