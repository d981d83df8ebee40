/-!
# Timestamps

A timestamp is a moment of universal time with its nanoseconds: a day of the calendar and a
time of that day.  The sixtieth second of a minute is a leap second.
-/

namespace PipelinesOperator

namespace Timestamp

/-- Whether a year of the calendar has a leap day. -/
def isLeap (year : Int) : Bool := year % 4 = 0 ∧ (year % 100 ≠ 0 ∨ year % 400 = 0)

/-- The number of days of a month. -/
def daysIn (year : Int) (month : Nat) : Nat :=
  if month = 2 then (if isLeap year then 29 else 28)
  else if month = 4 ∨ month = 6 ∨ month = 9 ∨ month = 11 then 30
  else 31

/-- A day of the calendar, as written. -/
structure Date where
  year : Int
  month : Nat
  day : Nat
  deriving DecidableEq, Repr

/-- A day that exists, in a year that the calendar reaches. -/
def Date.Valid (d : Date) : Prop :=
  (-262143 ≤ d.year ∧ d.year ≤ 262142) ∧ (1 ≤ d.month ∧ d.month ≤ 12) ∧
    (1 ≤ d.day ∧ d.day ≤ daysIn d.year d.month)

instance (d : Date) : Decidable d.Valid := by unfold Date.Valid; infer_instance

/-- The day before. -/
def Date.previous (d : Date) : Date :=
  if 1 < d.day then { d with day := d.day - 1 }
  else if 1 < d.month then ⟨d.year, d.month - 1, daysIn d.year (d.month - 1)⟩
  else ⟨d.year - 1, 12, 31⟩

/-- The day after. -/
def Date.next (d : Date) : Date :=
  if d.day < daysIn d.year d.month then { d with day := d.day + 1 }
  else if d.month < 12 then ⟨d.year, d.month + 1, 1⟩
  else ⟨d.year + 1, 1, 1⟩

/-- A time of day, as written. -/
structure Clock where
  hour : Nat
  minute : Nat
  second : Nat
  nanosecond : Nat
  deriving DecidableEq, Repr

/-- A time that a clock can show, the leap second included. -/
def Clock.Valid (c : Clock) : Prop :=
  c.hour ≤ 23 ∧ c.minute ≤ 59 ∧ c.second ≤ 60 ∧ c.nanosecond ≤ 999999999

instance (c : Clock) : Decidable c.Valid := by unfold Clock.Valid; infer_instance

end Timestamp

/-- A moment of universal time. -/
structure Timestamp where
  date : Timestamp.Date
  clock : Timestamp.Clock
  date_valid : date.Valid
  clock_valid : clock.Valid
  deriving DecidableEq, Repr

namespace Timestamp

/-- The timestamp of a day and a time, if both exist. -/
def of? (date : Date) (clock : Clock) : Option Timestamp :=
  if h : date.Valid then
    if k : clock.Valid then some ⟨date, clock, h, k⟩ else none
  else none

end Timestamp

end PipelinesOperator
