import ProofLedger.Calendar.Date
import ProofLedger.Text.Basic

/-!
# Moments

A moment is what a clock on the wall shows, in microseconds since the
first day of the calendar, together with the distance of that clock from
UTC when it is known. The instant of a moment is its wall time less the
distance; instants are what comparisons and cut-offs use. An instant near
either end of the calendar may have no wall time in UTC.
-/

namespace ProofLedger

namespace Calendar

/-- Microseconds of a second, a day, and the whole calendar. -/
def second : Nat := 1000000

def daySpan : Nat := 86400 * second

def endOfTime : Nat := endOfDays * daySpan

end Calendar

open Calendar

/-- A wall time within the calendar, and its distance from UTC, less than a day
in either direction, when it is known. -/
structure Moment where
  wall : Nat
  offset : Option Int
  wall_lt : wall < endOfTime
  offset_lt : ∀ o ∈ offset, o.natAbs < daySpan
  deriving DecidableEq, Repr

namespace Moment

/-- A moment, when its parts are within their bounds. -/
def make? (wall : Int) (offset : Option Int) : Option Moment :=
  if h : 0 ≤ wall ∧ wall < endOfTime ∧ ∀ o ∈ offset, o.natAbs < daySpan then
    some ⟨wall.toNat, offset, by omega, h.2.2⟩
  else none

/-- Whether the distance from UTC is known. -/
def isAware (m : Moment) : Bool := m.offset.isSome

/-- The instant in microseconds; a clock of unknown distance counts as UTC. -/
def instant (m : Moment) : Int := m.wall - m.offset.getD 0

/-- The same instant on a clock that shows UTC, when the calendar reaches it. -/
def utc? (m : Moment) : Option Moment := make? m.instant (some 0)

/-- The moment a number of microseconds later on the same clock. -/
def add? (m : Moment) (micros : Int) : Option Moment := make? (m.wall + micros) m.offset

/-- The date and the microseconds since midnight. -/
def date (m : Moment) : Date := .ofDay (m.wall / daySpan)

def sinceMidnight (m : Moment) : Nat := m.wall % daySpan

/-- Two digits. -/
def two (n : Nat) : Text := Text.ofNatPadded 2 n

/-- Hours, minutes and seconds with colons between them. -/
def timeText (seconds : Nat) : Text :=
  two (seconds / 3600) ++ 58 :: (two (seconds / 60 % 60) ++ 58 :: two (seconds % 60))

/-- A point and six digits. -/
def microsText (micros : Nat) : Text := 46 :: Text.ofNatPadded 6 micros

/-- A distance from UTC: sign, hours and minutes, and seconds and microseconds
only if there are any. -/
def offsetText (o : Int) : Text :=
  let micros := o.natAbs
  let seconds := micros / second
  (if o < 0 then 45 else 43) :: (two (seconds / 3600) ++ 58 :: two (seconds / 60 % 60)) ++
    (if micros % (60 * second) = 0 then []
      else 58 :: two (seconds % 60) ++
        if micros % second = 0 then [] else microsText (micros % second))

/-- Year, month and day with dashes between them. -/
def dateText (d : Date) : Text :=
  Text.ofNatPadded 4 d.year ++ 45 :: (two d.month ++ 45 :: two d.day)

/-- Date and time to the second with a `T` between them. -/
def wallText (m : Moment) : Text :=
  dateText m.date ++ 84 :: timeText (m.sinceMidnight / second)

/-- The distance from UTC when it is known. -/
def zoneText (m : Moment) : Text := (m.offset.map offsetText).getD []

/-- Date, time and distance from UTC; microseconds only if there are any. -/
def isoText (m : Moment) : Text :=
  m.wallText ++ (if m.wall % second = 0 then [] else microsText (m.wall % second)) ++ m.zoneText

/-- Date, time to the microsecond, and distance from UTC. -/
def fullText (m : Moment) : Text :=
  m.wallText ++ microsText (m.wall % second) ++ m.zoneText

/-- Date and time to the microsecond without marks between the numbers; the year
is not filled up to four digits. -/
def stampText (m : Moment) : Text :=
  let d := m.date
  let s := m.sinceMidnight / second
  Text.ofNat d.year ++ two d.month ++ two d.day ++ "T" ++ two (s / 3600) ++ two (s / 60 % 60) ++
    two (s % 60) ++ Text.ofNatPadded 6 (m.wall % second) ++ "Z"

end Moment

/-- Why a moment cannot be written or moved. -/
inductive TimeFault where
  /-- The distance from UTC is not known. -/
  | notAware
  /-- The result lies outside the calendar. -/
  | outOfRange
  /-- The day before the first one would be needed. -/
  | beforeCalendar
  deriving DecidableEq, Repr

def TimeFault.message : TimeFault → Text
  | .notAware => "timestamp must be timezone-aware"
  | .outOfRange => "date value out of range"
  | .beforeCalendar => "year 0 is out of range"

/-- The text of an instant that every record uses: UTC to the microsecond. -/
def Moment.format (m : Moment) : Except TimeFault Text :=
  if m.isAware then
    match m.utc? with
    | some u => .ok u.fullText
    | none => .error .outOfRange
  else .error .notAware

end ProofLedger
