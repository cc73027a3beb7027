/-
# Dates of the proleptic Gregorian calendar

A date is a year, a month and a day.  Days are counted from the epoch,
1970-01-01; `Date.toDays` counts and `Date.ofDays` finds the date again.  Both
go through days since 0001-01-01, a Monday:

    before year y       365 (y - 1) + leap days of the years before y
    inside year y       the months before, then the days before

Only the years from `minYear` to `maxYear` are in the calendar.
-/

namespace RecordQuery

/-- The days of the week, from Monday. -/
inductive Weekday where
  | monday
  | tuesday
  | wednesday
  | thursday
  | friday
  | saturday
  | sunday
deriving DecidableEq, Inhabited

/-- The days of the week in order. -/
def Weekday.all : List Weekday :=
  [.monday, .tuesday, .wednesday, .thursday, .friday, .saturday, .sunday]

namespace Calendar

/-- The first year of the calendar. -/
def minYear : Int := -262143

/-- The last year of the calendar. -/
def maxYear : Int := 262142

/-- Every fourth year is a leap year, of the hundredth ones every fourth. -/
def isLeap (year : Int) : Bool :=
  year % 4 == 0 && (year % 100 != 0 || year % 400 == 0)

/-- The lengths of the months of a year. -/
def monthLengths (year : Int) : List Nat :=
  [31, if isLeap year then 29 else 28, 31, 30, 31, 30, 31, 31, 30, 31, 30, 31]

/-- The length of month `1 … 12` of a year; any other month has no days. -/
def daysInMonth (year : Int) (month : Nat) : Nat :=
  if month = 0 then 0 else (monthLengths year).getD (month - 1) 0

/-- The days from 0001-01-01 to the first of January of a year. -/
def daysBeforeYear (year : Int) : Int :=
  365 * (year - 1) + (year - 1) / 4 - (year - 1) / 100 + (year - 1) / 400

/-- The days of a year before the first of a month. -/
def daysBeforeMonth (year : Int) (month : Nat) : Nat :=
  ((monthLengths year).take (month - 1)).foldl (· + ·) 0

/-- The days from 0001-01-01 to the epoch. -/
def epoch : Int := 719162

end Calendar

/-- A year, a month and a day. -/
structure Date where
  year : Int
  month : Nat
  day : Nat
deriving DecidableEq, Inhabited

namespace Date

open Calendar

/-- Is there such a day, in a year of the calendar? -/
def IsValid (d : Date) : Prop :=
  minYear ≤ d.year ∧ d.year ≤ maxYear ∧ 1 ≤ d.month ∧ d.month ≤ 12
    ∧ 1 ≤ d.day ∧ d.day ≤ daysInMonth d.year d.month

instance (d : Date) : Decidable d.IsValid := by
  unfold IsValid
  infer_instance

/-- The date with these parts, if there is such a day. -/
def of? (year : Int) (month day : Nat) : Option Date :=
  if (Date.mk year month day).IsValid then some ⟨year, month, day⟩ else none

/-! ## Counting days -/

/-- The days from the epoch to a date. -/
def toDays (d : Date) : Int :=
  daysBeforeYear d.year + daysBeforeMonth d.year d.month + (d.day - 1) - epoch

/-- The month and the day at a number of days into a run of months, the first of
which is number `month`. -/
def monthAndDay (month : Nat) : List Nat → Nat → Nat × Nat
  | [], days => (month, days + 1)
  | length :: rest, days =>
      if days < length then (month, days + 1)
      else monthAndDay (month + 1) rest (days - length)

/-- The date that many days after the epoch.  Whole cycles of 400 years come off
first, then centuries, then runs of four years, then years; the last century
of a cycle and the last year of a run are one day longer. -/
def ofDays (days : Int) : Date :=
  let n := days + epoch
  let cycles := n / 146097
  let inCycle := n % 146097
  let centuries := min (inCycle / 36524) 3
  let inCentury := inCycle - 36524 * centuries
  let runs := inCentury / 1461
  let inRun := inCentury % 1461
  let years := min (inRun / 365) 3
  let year := 400 * cycles + 100 * centuries + 4 * runs + years + 1
  let (month, day) := monthAndDay 1 (monthLengths year) (inRun - 365 * years).toNat
  ⟨year, month, day⟩

/-- The day of the week. -/
def weekday (d : Date) : Weekday :=
  Weekday.all.getD ((d.toDays + epoch) % 7).toNat .monday

end Date

end RecordQuery
