/-!
# Dates and times

Dates of the Gregorian calendar in the years 1 to 9999, times of day to the microsecond, and
moments: a date and time as a clock shows it, with the offset of the clock's zone if that is known.
-/

namespace Criteria
set_option autoImplicit false

/-- Whether the year has a 29th of February. -/
def isLeapYear (year : Nat) : Bool := year % 4 == 0 && (year % 100 != 0 || year % 400 == 0)

/-- The number of days of a month, zero for a number that is no month. -/
def monthLength (year month : Nat) : Nat :=
  if month == 2 then (if isLeapYear year then 29 else 28)
  else if month == 4 || month == 6 || month == 9 || month == 11 then 30
  else if 1 ≤ month && month ≤ 12 then 31
  else 0

/-- A day of the calendar. -/
structure Date where
  year : Nat
  month : Nat
  day : Nat
  year_mem : 1 ≤ year ∧ year ≤ 9999
  month_mem : 1 ≤ month ∧ month ≤ 12
  day_mem : 1 ≤ day ∧ day ≤ monthLength year month
deriving DecidableEq, Repr

namespace Date

/-- The day with the given numbers, if the calendar has it. -/
def ofParts? (year month day : Nat) : Option Date :=
  if h : (1 ≤ year ∧ year ≤ 9999) ∧ (1 ≤ month ∧ month ≤ 12) ∧
      (1 ≤ day ∧ day ≤ monthLength year month) then
    some ⟨year, month, day, h.1, h.2.1, h.2.2⟩
  else none

/-- The day after, unless it falls into the year 10000. -/
def next? (d : Date) : Option Date :=
  if d.day < monthLength d.year d.month then ofParts? d.year d.month (d.day + 1)
  else if d.month < 12 then ofParts? d.year (d.month + 1) 1
  else ofParts? (d.year + 1) 1 1

/-- The day before, unless it falls into the year 0. -/
def previous? (d : Date) : Option Date :=
  if 1 < d.day then ofParts? d.year d.month (d.day - 1)
  else if 1 < d.month then ofParts? d.year (d.month - 1) (monthLength d.year (d.month - 1))
  else ofParts? (d.year - 1) 12 31

/-- The number of days from the day before 1 January of year 1. -/
def dayNumber (d : Date) : Nat :=
  let y := d.year - 1
  365 * y + y / 4 - y / 100 + y / 400 +
    (List.range (d.month - 1)).foldl (fun days m => days + monthLength d.year (m + 1)) d.day

end Date

/-- A time of day. -/
structure TimeOfDay where
  hour : Nat
  minute : Nat
  second : Nat
  micro : Nat
  hour_lt : hour < 24
  minute_lt : minute < 60
  second_lt : second < 60
  micro_lt : micro < 1000000
deriving DecidableEq, Repr

/-- The number of microseconds in a day. -/
def microsPerDay : Nat := 86400000000

namespace TimeOfDay

/-- The time with the given numbers, if a day has it. -/
def ofParts? (hour minute second micro : Nat) : Option TimeOfDay :=
  if h : hour < 24 ∧ minute < 60 ∧ second < 60 ∧ micro < 1000000 then
    some ⟨hour, minute, second, micro, h.1, h.2.1, h.2.2.1, h.2.2.2⟩
  else none

/-- The number of microseconds since midnight. -/
def micros (t : TimeOfDay) : Nat :=
  ((t.hour * 60 + t.minute) * 60 + t.second) * 1000000 + t.micro

/-- What a clock shows so many microseconds after midnight. -/
def ofMicros (n : Nat) : TimeOfDay where
  hour := n / 3600000000 % 24
  minute := n / 60000000 % 60
  second := n / 1000000 % 60
  micro := n % 1000000
  hour_lt := Nat.mod_lt _ (by decide)
  minute_lt := Nat.mod_lt _ (by decide)
  second_lt := Nat.mod_lt _ (by decide)
  micro_lt := Nat.mod_lt _ (by decide)

end TimeOfDay

/-- A date and a time of day, as a clock shows them. -/
structure DateTime where
  date : Date
  time : TimeOfDay
deriving DecidableEq, Repr

namespace DateTime

/-- The date and time with the given numbers, if there is one. -/
def ofParts? (year month day hour minute second micro : Nat) : Option DateTime := do
  let date ← Date.ofParts? year month day
  let time ← TimeOfDay.ofParts? hour minute second micro
  return ⟨date, time⟩

/-- The number of microseconds from midnight before 31 December of year 0. -/
def micros (t : DateTime) : Nat := t.date.dayNumber * microsPerDay + t.time.micros

end DateTime

/-- How far a clock is ahead of universal time, in microseconds: less than a day either way. -/
structure Offset where
  micros : Int
  micros_mem : -microsPerDay < micros ∧ micros < microsPerDay
deriving DecidableEq, Repr

namespace Offset

/-- The offset of universal time. -/
def utc : Offset := ⟨0, by decide⟩

/-- The offset of so many microseconds, if it is less than a day. -/
def ofMicros? (micros : Int) : Option Offset :=
  if h : -microsPerDay < micros ∧ micros < microsPerDay then some ⟨micros, h⟩ else none

/-- The offset of so many minutes, if it is less than a day. -/
def ofMinutes? (minutes : Int) : Option Offset := ofMicros? (minutes * 60000000)

end Offset

/-- What a clock shows, with its offset unless the zone is unknown. -/
structure Moment where
  wall : DateTime
  offset : Option Offset
deriving DecidableEq, Repr

namespace Moment

/-- A moment given in universal time. -/
def utc (wall : DateTime) : Moment := ⟨wall, some .utc⟩

/-- The moment in universal time. A clock of an unknown zone is taken to show it already; `none`
means that the moment leaves the years 1 to 9999. -/
def toUtc? (m : Moment) : Option DateTime :=
  match m.offset with
  | none => some m.wall
  | some offset =>
    let clock : Int := m.wall.time.micros - offset.micros
    let date? :=
      if clock < 0 then m.wall.date.previous?
      else if clock < microsPerDay then some m.wall.date
      else m.wall.date.next?
    date?.map fun date => ⟨date, .ofMicros (clock % microsPerDay).toNat⟩

/-- The instant, in microseconds of universal time. -/
def instant (m : Moment) : Int := m.wall.micros - m.offset.elim 0 (·.micros)

/-- Two moments are the same if both zones are known and the instants agree, or neither zone is
known and the clocks agree. -/
def same (a b : Moment) : Bool :=
  match a.offset, b.offset with
  | none, none => a.wall == b.wall
  | some _, some _ => a.instant == b.instant
  | _, _ => false

end Moment

end Criteria
