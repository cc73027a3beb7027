/-
# Internet timestamps

The date and time of RFC 3339:

    YYYY "-" MM "-" DD sep hh ":" mm ":" ss ["." digits] zone

where the separator is `T`, `t` or a space, and the zone is `Z`, `z` or hours and
minutes after a sign.  Digits of the second beyond the ninth are dropped.
-/
import RecordQuery.Calendar.Reading

namespace RecordQuery.Calendar.Timestamp

/-- The nanoseconds after the point: up to nine digits count, and fewer stand for
as many with zeros after them. -/
def fraction (cs : List Char) : Option (Option Nat × List Char) :=
  match cs with
  | '.' :: rest => do
      let (n, after) ← number 1 9 rest
      let digits := rest.length - after.length
      some (some (n * Nat.pow 10 (9 - digits)), after.dropWhile Char.isDigit)
  | _ => some (none, cs)

/-- The character between date and time. -/
def separator : List Char → Option (List Char)
  | c :: rest => if c ∈ ['t', 'T', ' '] then some rest else none
  | [] => none

/-- The seconds that a zone of hours, a colon and minutes is ahead. -/
def zoneDigits (sign : Int) (cs : List Char) : Option (Int × List Char) := do
  let (hours, cs) ← number 2 2 cs
  let cs ← char ':' cs
  let (minutes, cs) ← number 2 2 cs
  if hours ≤ 23 ∧ minutes ≤ 59 then some (sign * (3600 * hours + 60 * minutes), cs) else none

/-- The seconds that a zone is ahead; the minus may be a hyphen or a minus sign. -/
def zone : Reader Int := fun cs =>
  match cs with
  | [] => none
  | c :: rest =>
      if c ∈ ['Z', 'z'] then some (0, rest)
      else if c = '+' then zoneDigits 1 rest
      else if c ∈ ['-', '−'] then zoneDigits (-1) rest
      else none

/-- The moment, as written, of a timestamp; the text must be read to its end. -/
def moment? (cs : List Char) : Option Moment := do
  let (year, cs) ← number 4 4 cs
  let cs ← char '-' cs
  let (month, cs) ← number 2 2 cs
  let cs ← char '-' cs
  let (day, cs) ← number 2 2 cs
  let cs ← separator cs
  let (hour, cs) ← number 2 2 cs
  let cs ← char ':' cs
  let (minute, cs) ← number 2 2 cs
  let cs ← char ':' cs
  let (second, cs) ← number 2 2 cs
  let (nanosecond, cs) ← fraction cs
  let (offset, cs) ← zone cs
  let m ← Fields.moment?
    { year := some (year : Int), month := some month, day := some day,
      hour := some hour, minute := some minute, second := some second,
      nanosecond := nanosecond }
  if cs = [] ∧ m.fitsZone offset then some m else none

end RecordQuery.Calendar.Timestamp
