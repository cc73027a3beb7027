/-
# Layouts of dates

A layout is a list of items that a text is read by, from the front; what is
left after the last item does not matter.  Numbers may have blanks before them
and, all but the year, one digit or two.  A year has up to four digits, or any
number of them after a sign.
-/
import RecordQuery.Calendar.Reading

namespace RecordQuery.Calendar

/-- One step of reading a date. -/
inductive Item where
  /-- Exactly this character. -/
  | char (c : Char)
  /-- Blanks, or nothing. -/
  | space
  | weekday
  | year
  | month
  | day
  /-- The short name of a month. -/
  | shortMonth
  /-- The name of a month, long or short. -/
  | longMonth
  | hour
  | minute
  | second
deriving DecidableEq

/-- The items that a text is read by. -/
abbrev Layout := List Item

/-! ## Reading by a layout -/

/-- One or two digits, blanks before them allowed. -/
def shortNumber : Reader Nat := fun cs =>
  number 1 2 (Text.trimStart cs)

/-- A year, blanks before it allowed. -/
def yearNumber : Reader Int := fun cs =>
  match Text.trimStart cs with
  | '-' :: rest => (longNumber 1 rest).map fun (n, after) => (-(n : Int), after)
  | '+' :: rest => (longNumber 1 rest).map fun (n, after) => ((n : Int), after)
  | rest => (number 1 4 rest).map fun (n, after) => ((n : Int), after)

/-- Read one item. -/
def Item.read (f : Fields) (cs : List Char) : Item → Option (Fields × List Char)
  | .char c => (Calendar.char c cs).map fun rest => (f, rest)
  | .space => some (f, Text.trimStart cs)
  | .weekday => (weekdayName cs).map fun (w, rest) => ({ f with weekday := some w }, rest)
  | .year => (yearNumber cs).map fun (y, rest) => ({ f with year := some y }, rest)
  | .month => (shortNumber cs).map fun (n, rest) => ({ f with month := some n }, rest)
  | .day => (shortNumber cs).map fun (n, rest) => ({ f with day := some n }, rest)
  | .shortMonth => (shortMonthName cs).map fun (n, rest) => ({ f with month := some n }, rest)
  | .longMonth => (monthName cs).map fun (n, rest) => ({ f with month := some n }, rest)
  | .hour => (shortNumber cs).map fun (n, rest) => ({ f with hour := some n }, rest)
  | .minute => (shortNumber cs).map fun (n, rest) => ({ f with minute := some n }, rest)
  | .second => (shortNumber cs).map fun (n, rest) => ({ f with second := some n }, rest)

/-- What a layout reads from the front of a text. -/
def Layout.read (f : Fields) : Layout → List Char → Option Fields
  | [], _ => some f
  | item :: rest, cs =>
      match item.read f cs with
      | some (f', cs') => Layout.read f' rest cs'
      | none => none

/-- The moment that a layout reads. -/
def Layout.moment? (layout : Layout) (cs : List Char) : Option Moment :=
  (layout.read {} cs).bind Fields.moment?

/-- The day that a layout reads. -/
def Layout.date? (layout : Layout) (cs : List Char) : Option Date :=
  (layout.read {} cs).bind Fields.date?

/-! ## The known layouts -/

/-- Hours, minutes and seconds between colons. -/
def clock : Layout :=
  [.hour, .char ':', .minute, .char ':', .second]

/-- Year, month and day between two equal characters. -/
def numericDate (c : Char) : Layout :=
  [.year, .char c, .month, .char c, .day]

/-- Day, name of the month and year between blanks. -/
def wordDate (name : Item) : Layout :=
  [.day, .space, name, .space, .year]

/-- Name of the month, day, a comma and the year. -/
def commaDate (name : Item) : Layout :=
  [name, .space, .day, .char ',', .space, .year]

/-- The weekday and a comma in front of a layout. -/
def afterWeekday (layout : Layout) : Layout :=
  [.weekday, .char ',', .space] ++ layout

/-- The layouts of a date with a time, in the order in which they are tried. -/
def momentLayouts : List Layout :=
  [afterWeekday (wordDate .shortMonth) ++ [.space] ++ clock,
   wordDate .shortMonth ++ [.space] ++ clock,
   wordDate .longMonth ++ [.space] ++ clock,
   numericDate '-' ++ [.char 'T'] ++ clock,
   numericDate '-' ++ [.space] ++ clock,
   numericDate '/' ++ [.space] ++ clock,
   [.weekday, .space, .shortMonth, .space, .day, .space] ++ clock ++ [.space, .year],
   [.year, .month, .day, .char 'T', .hour, .minute, .second]]

/-- The layouts of a date alone, in the order in which they are tried. -/
def dateLayouts : List Layout :=
  [numericDate '-',
   numericDate '/',
   afterWeekday (wordDate .shortMonth),
   wordDate .shortMonth,
   wordDate .longMonth,
   commaDate .shortMonth,
   commaDate .longMonth,
   [.month, .char '/', .day, .char '/', .year],
   [.year, .month, .day]]

end RecordQuery.Calendar
