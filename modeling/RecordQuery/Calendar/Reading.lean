/-
# Reading the parts of a date

Each reader takes characters from the front and gives what it read and the
rest, or nothing when the front does not fit.  `Fields` collects what was read;
a day or a moment is built from it at the end, when every part is checked at
once: ranges, the length of the month, and the day of the week if one was
written.
-/
import RecordQuery.Calendar.Moment
import RecordQuery.Text.Blank

namespace RecordQuery.Calendar

/-- A reader of characters from the front of a text. -/
abbrev Reader (α : Type) := List Char → Option (α × List Char)

/-! ## Characters and numbers -/

/-- Exactly the given character. -/
def char (c : Char) : List Char → Option (List Char)
  | [] => none
  | d :: rest => if d = c then some rest else none

/-- One blank character or more. -/
def blanks (cs : List Char) : Option (List Char) :=
  match cs with
  | [] => none
  | c :: _ => if Text.isBlank c then some (Text.trimStart cs) else none

/-- The value of the digits in front and what follows them, when there are at
least `least` digits. -/
def digitsOf (least : Nat) (digits rest : List Char) : Option (Nat × List Char) :=
  if least ≤ digits.length then some (Nat.ofDigitChars 10 digits 0, rest) else none

/-- A number of `least` to `most` ASCII digits; further digits are left. -/
def number (least most : Nat) : Reader Nat := fun cs =>
  let digits := (cs.take most).takeWhile Char.isDigit
  digitsOf least digits (cs.drop digits.length)

/-- A number of at least `least` ASCII digits. -/
def longNumber (least : Nat) : Reader Nat := fun cs =>
  digitsOf least (cs.takeWhile Char.isDigit) (cs.dropWhile Char.isDigit)

/-! ## Names -/

/-- The given lower case letters in either case of ASCII. -/
def letters : List Char → List Char → Option (List Char)
  | [], cs => some cs
  | _ :: _, [] => none
  | l :: ls, c :: cs => if c.toLower = l then letters ls cs else none

/-- The first of the named things whose name stands in front. -/
def oneOf {α : Type} : List (String × α) → Reader α
  | [], _ => none
  | (name, x) :: rest, cs =>
      match letters name.toList cs with
      | some after => some (x, after)
      | none => oneOf rest cs

/-- The short names of the days of the week. -/
def weekdayNames : List (String × Weekday) :=
  [("mon", .monday), ("tue", .tuesday), ("wed", .wednesday), ("thu", .thursday),
   ("fri", .friday), ("sat", .saturday), ("sun", .sunday)]

/-- The short names of the months, each with the number of the month. -/
def monthNames : List (String × Nat) :=
  [("jan", 1), ("feb", 2), ("mar", 3), ("apr", 4), ("may", 5), ("jun", 6),
   ("jul", 7), ("aug", 8), ("sep", 9), ("oct", 10), ("nov", 11), ("dec", 12)]

/-- What makes the short name of each month the long one. -/
def monthEndings : List String :=
  ["uary", "ruary", "ch", "il", "", "e", "y", "ust", "tember", "ober", "ember", "ember"]

/-- The short name of a day of the week. -/
def weekdayName : Reader Weekday :=
  oneOf weekdayNames

/-- The short name of a month. -/
def shortMonthName : Reader Nat :=
  oneOf monthNames

/-- The name of a month, long or short. -/
def monthName : Reader Nat := fun cs =>
  match shortMonthName cs with
  | none => none
  | some (month, rest) =>
      match letters (monthEndings.getD (month - 1) "").toList rest with
      | some after => some (month, after)
      | none => some (month, rest)

/-! ## What was read -/

/-- The parts of a date and a time that were read. -/
structure Fields where
  year : Option Int := none
  month : Option Nat := none
  day : Option Nat := none
  weekday : Option Weekday := none
  hour : Option Nat := none
  minute : Option Nat := none
  second : Option Nat := none
  nanosecond : Option Nat := none

namespace Fields

/-- The day that was read, if it exists and falls on the weekday that was read. -/
def date? (f : Fields) : Option Date := do
  let d ← Date.of? (← f.year) (← f.month) (← f.day)
  match f.weekday with
  | some w => if d.weekday = w then some d else none
  | none => some d

/-- The moment that was read.  Seconds may be missing; second 60 is a leap
second. -/
def moment? (f : Fields) : Option Moment := do
  let d ← f.date?
  let hour ← f.hour
  let minute ← f.minute
  let second := f.second.getD 0
  let nanosecond := f.nanosecond.getD 0
  if hour ≤ 23 ∧ minute ≤ 59 ∧ second ≤ 60 then
    if second = 60 then some ⟨d, hour, minute, 59, 1000000000 + nanosecond⟩
    else some ⟨d, hour, minute, second, nanosecond⟩
  else none

end Fields

end RecordQuery.Calendar
