/-
# From a value to a point in time

Integers, and texts of nine ASCII digits or more, are seconds since the epoch.
Any other text is tried as the date of a message, as a timestamp, and then by
the known layouts, after everything from the first character on that no date
contains has been cut off.  Blank texts, lists and nil are no time at all.
-/
import RecordQuery.Calendar.Layout
import RecordQuery.Calendar.Mail
import RecordQuery.Calendar.Timestamp
import RecordQuery.Record.Error
import RecordQuery.Text.Alphabetic
import RecordQuery.Text.Numeric
import RecordQuery.Value.Basic

namespace RecordQuery.Calendar

/-- Can the character be part of a date? -/
def isDateChar (c : Char) : Bool :=
  Text.isAlphabetic c || Text.isNumeric c || Text.isBlank c || c ∈ [',', ':', '-', '/', '.']

/-- The text up to the first character that no date contains, such as the sign of
a zone or the parenthesis of a comment. -/
def stripAnnotation (cs : List Char) : List Char :=
  Text.trimEnd (cs.takeWhile isDateChar)

/-- The moment that a text without blanks at its ends describes.  A text that is
both takes the first reading that fits. -/
def parseMoment? (cs : List Char) : Option Moment :=
  let bare := stripAnnotation cs
  Mail.moment? cs
    <|> Timestamp.moment? cs
    <|> momentLayouts.findSome? (·.moment? bare)
    <|> (dateLayouts.findSome? (·.date? bare)).map Moment.midnight

/-- The moment so many seconds after the epoch, or the fault that it is out of
the calendar. -/
def ofSeconds (function : String) (seconds : Int) : Except EvalError Moment :=
  match Moment.ofUnix? seconds with
  | some m => .ok m
  | none =>
      .error (.dateParse function (String.ofList (Decimal.ofInt seconds)) .outOfRange)

/-- Is the text a number of seconds? -/
def isSeconds (cs : List Char) : Bool :=
  9 ≤ cs.length && cs.all Char.isDigit

/-- The point in time that a value stands for, if it stands for one; `function` is
the function whose argument the value is. -/
def resolve (function : String) : Value → Except EvalError (Option Moment)
  | .integer n => (ofSeconds function n.toInt).map some
  | .text s =>
      let cs := Text.trim s.toList
      let fault := fun f => EvalError.dateParse function (String.ofList cs) f
      if cs = [] then .ok none
      else if isSeconds cs then
        match Decimal.int64? cs with
        | some n => (ofSeconds function n.toInt).map some
        | none => .error (fault .tooManyDigits)
      else
        match parseMoment? cs with
        | some m => .ok (some m)
        | none => .error (fault .noLayout)
  | .list _ | .nil => .ok none

end RecordQuery.Calendar
