/-
# Points in time

A moment is a date and a time of day, without any zone.  A leap second is
written as second 59 with a thousand million nanoseconds or more.
-/
import RecordQuery.Calendar.Date

namespace RecordQuery

/-- A date and a time of day. -/
structure Moment where
  date : Date
  hour : Nat
  minute : Nat
  second : Nat
  nanosecond : Nat
deriving DecidableEq, Inhabited

namespace Moment

/-- The seconds of a day. -/
def secondsPerDay : Int := 86400

/-- The start of a day. -/
def midnight (d : Date) : Moment :=
  ⟨d, 0, 0, 0, 0⟩

/-- The whole seconds since midnight. -/
def secondOfDay (m : Moment) : Int :=
  3600 * m.hour + 60 * m.minute + m.second

/-- The whole seconds since the epoch. -/
def toUnix (m : Moment) : Int :=
  secondsPerDay * m.date.toDays + m.secondOfDay

/-- The moment that many seconds after the epoch. -/
def ofUnix (seconds : Int) : Moment :=
  let inDay := (seconds % secondsPerDay).toNat
  ⟨Date.ofDays (seconds / secondsPerDay), inDay / 3600, inDay / 60 % 60, inDay % 60, 0⟩

/-- The moment that many seconds after the epoch, if its year is in the
calendar. -/
def ofUnix? (seconds : Int) : Option Moment :=
  let m := ofUnix seconds
  if Calendar.minYear ≤ m.date.year ∧ m.date.year ≤ Calendar.maxYear then some m else none

/-- Does the moment, read in a zone so many seconds ahead, stay in the calendar
when it is taken to the zone at zero? -/
def fitsZone (m : Moment) (offset : Int) : Bool :=
  (ofUnix? (m.toUnix - offset)).isSome

end Moment

end RecordQuery
