set_option autoImplicit false

/-!
# Dates and times

Dates of the proleptic Gregorian calendar, times of day with nanoseconds, and times at an offset
from UTC. A second with a thousand million nanoseconds or more is the leap second after it, which may
follow any second. Every value carries the proof that its fields are in range. Two timestamps are the
same instant if their UTC times agree.
-/

namespace ArgCheck.Calendar

def minYear : Int := -262143

def maxYear : Int := 262142

def isLeapYear (year : Int) : Bool :=
  year % 4 == 0 && (year % 100 != 0 || year % 400 == 0)

def daysInMonth (year : Int) (month : Nat) : Nat :=
  if month = 2 then if isLeapYear year then 29 else 28
  else if month = 4 ∨ month = 6 ∨ month = 9 ∨ month = 11 then 30
  else 31

structure Date where
  year : Int
  month : Nat
  day : Nat
  year_mem : minYear ≤ year ∧ year ≤ maxYear
  month_mem : 1 ≤ month ∧ month ≤ 12
  day_mem : 1 ≤ day ∧ day ≤ daysInMonth year month
  deriving DecidableEq

namespace Date

def make? (year : Int) (month day : Nat) : Option Date :=
  if h : (minYear ≤ year ∧ year ≤ maxYear) ∧ (1 ≤ month ∧ month ≤ 12) ∧
      (1 ≤ day ∧ day ≤ daysInMonth year month) then
    some ⟨year, month, day, h.1, h.2.1, h.2.2⟩
  else none

/-- Days since the first of March of the year 0. The year is counted from March, so that the leap
day comes last. -/
def dayNumber (d : Date) : Int :=
  let year := if d.month ≤ 2 then d.year - 1 else d.year
  let month : Int := if d.month ≤ 2 then d.month + 9 else d.month - 3
  365 * year + year / 4 - year / 100 + year / 400 + (153 * month + 2) / 5 + d.day - 1

theorem make?_self (d : Date) : make? d.year d.month d.day = some d := by
  simp [make?, d.year_mem, d.month_mem, d.day_mem]

end Date

structure Clock where
  hour : Nat
  minute : Nat
  second : Nat
  nano : Nat
  hour_lt : hour < 24
  minute_lt : minute < 60
  second_lt : second < 60
  nano_lt : nano < 2000000000
  deriving DecidableEq

namespace Clock

def make? (hour minute second nano : Nat) : Option Clock :=
  if h : hour < 24 ∧ minute < 60 ∧ second < 60 ∧ nano < 2000000000 then
    some ⟨hour, minute, second, nano, h.1, h.2.1, h.2.2.1, h.2.2.2⟩
  else none

def midnight : Clock where
  hour := 0
  minute := 0
  second := 0
  nano := 0
  hour_lt := by decide
  minute_lt := by decide
  second_lt := by decide
  nano_lt := by decide

def secondOfDay (c : Clock) : Nat := 3600 * c.hour + 60 * c.minute + c.second

theorem make?_self (c : Clock) : make? c.hour c.minute c.second c.nano = some c := by
  simp [make?, c.hour_lt, c.minute_lt, c.second_lt, c.nano_lt]

end Clock

structure DateTime where
  date : Date
  clock : Clock
  deriving DecidableEq

namespace DateTime

/-- Seconds since the first of March of the year 0, leap seconds not counted. -/
def seconds (t : DateTime) : Int := 86400 * t.date.dayNumber + t.clock.secondOfDay

end DateTime

def inRange (seconds : Int) : Bool :=
  86400 * (365 * (minYear - 1) + (minYear - 1) / 4 - (minYear - 1) / 100 + (minYear - 1) / 400 +
      306) ≤ seconds &&
    seconds < 86400 * (365 * maxYear + maxYear / 4 - maxYear / 100 + maxYear / 400 + 306)

structure Timestamp where
  wall : DateTime
  offset : Int
  offset_lt : offset.natAbs < 86400
  inRange : inRange (wall.seconds - offset) = true
  deriving DecidableEq

namespace Timestamp

def make? (wall : DateTime) (offset : Int) : Option Timestamp :=
  if h : offset.natAbs < 86400 ∧ Calendar.inRange (wall.seconds - offset) = true then
    some ⟨wall, offset, h.1, h.2⟩
  else none

def instant (t : Timestamp) : Int × Nat := (t.wall.seconds - t.offset, t.wall.clock.nano)

def sameInstant (a b : Timestamp) : Bool := a.instant == b.instant

theorem make?_self (t : Timestamp) : make? t.wall t.offset = some t := by
  simp [make?, t.offset_lt, t.inRange]

theorem sameInstant_iff (a b : Timestamp) : a.sameInstant b = true ↔ a.instant = b.instant := by
  simp [sameInstant]

end Timestamp

end ArgCheck.Calendar
