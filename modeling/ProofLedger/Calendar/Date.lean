/-!
# Dates

Days of the Gregorian calendar, extended back to the year 1 and on to the
year 9999, counted from zero at 1 January of the year 1. `Date.day` and
`Date.ofDay` go between a date and its day; weeks start on Monday, and
the first week of a year is the one that holds its first Thursday.
-/

namespace ProofLedger.Calendar

/-- A year, a month from 1 and a day from 1. -/
structure Date where
  year : Nat
  month : Nat
  day : Nat
  deriving DecidableEq, Repr

def isLeap (year : Nat) : Bool := year % 4 == 0 && (year % 100 != 0 || year % 400 == 0)

/-- The days before 1 January of a year, for years from 1 on. -/
def daysBeforeYear (year : Nat) : Nat :=
  let y := year - 1
  365 * y + y / 4 - y / 100 + y / 400

/-- The lengths of the months. -/
def monthLengths (leap : Bool) : List Nat :=
  [31, if leap then 29 else 28, 31, 30, 31, 30, 31, 31, 30, 31, 30, 31]

/-- The days of a month; zero for a month that does not exist. -/
def daysInMonth (year month : Nat) : Nat := ((0 :: monthLengths (isLeap year))[month]?).getD 0

/-- The days before the first of a month. -/
def daysBeforeMonth (year month : Nat) : Nat :=
  ((monthLengths (isLeap year)).take (month - 1)).foldr (· + ·) 0

/-- The day after the last one. -/
def endOfDays : Nat := daysBeforeYear 10000

namespace Date

/-- The date exists. -/
def Valid (d : Date) : Prop :=
  1 ≤ d.year ∧ d.year ≤ 9999 ∧ 1 ≤ d.month ∧ d.month ≤ 12 ∧ 1 ≤ d.day ∧
    d.day ≤ daysInMonth d.year d.month

instance (d : Date) : Decidable d.Valid := inferInstanceAs (Decidable (_ ∧ _))

/-- The number of the day. -/
def toDay (d : Date) : Nat :=
  daysBeforeYear d.year + daysBeforeMonth d.year d.month + (d.day - 1)

/-- The month and the day in it, from the lengths of the months that may still
come, the number of the first of them, and the days left. -/
def monthOf : List Nat → Nat → Nat → Nat × Nat
  | [], month, rest => (month, rest + 1)
  | n :: ns, month, rest =>
    if rest < n then (month, rest + 1) else monthOf ns (month + 1) (rest - n)

/-- The year of a day: an estimate from the mean length of a year, which is off
by one at most. -/
def yearOf (day : Nat) : Nat :=
  let y := 400 * day / 146097 + 1
  if day < daysBeforeYear y then y - 1
  else if daysBeforeYear (y + 1) ≤ day then y + 1
  else y

/-- The date of a day. -/
def ofDay (day : Nat) : Date :=
  let year := yearOf day
  let (month, inMonth) := monthOf (monthLengths (isLeap year)) 1 (day - daysBeforeYear year)
  ⟨year, month, inMonth⟩

end Date

/-- The day of the week, Monday being 0; the first day of all is a Monday. -/
def weekday (day : Nat) : Nat := day % 7

/-- The Monday of the first week of a year, as an offset from the first day of
all that may be negative in principle. -/
def firstMonday (year : Nat) : Int :=
  let first := daysBeforeYear year
  let w := weekday first
  if 3 < w then (first : Int) - w + 7 else (first : Int) - w

/-- Whether a year has 53 weeks: it starts on a Thursday, or on a Wednesday and
is a leap year. -/
def hasLongCount (year : Nat) : Bool :=
  let w := weekday (daysBeforeYear year)
  w == 3 || (w == 2 && isLeap year)

/-- The day of a year, a week from 1 and a day of the week from 1; `none` when
there is none or it lies outside the calendar. -/
def dayOfWeekDate? (year week day : Nat) : Option Nat :=
  if 1 ≤ year ∧ year ≤ 9999 ∧ 1 ≤ week ∧ (week ≤ 52 ∨ (week = 53 ∧ hasLongCount year = true)) ∧
      1 ≤ day ∧ day ≤ 7 then
    let n := firstMonday year + ((week - 1) * 7 + (day - 1) : Nat)
    if 0 ≤ n ∧ n < endOfDays then some n.toNat else none
  else none

end ProofLedger.Calendar
