/-
# Dates of mail messages

The date of a message header (RFC 2822):

    [Www ","] D Mon Y hh ":" mm [":" ss] zone comments

A year of two digits is in this century below 50 and in the last one from 50
on; one of three digits counts from 1900.  The zone is four digits after a sign
or one of the old names, of which a single letter but `J` is the zone at zero.
Comments in parentheses may follow, one inside the other.
-/
import RecordQuery.Calendar.Reading

namespace RecordQuery.Calendar.Mail

/-! ## Year and zone -/

/-- The year meant by a number that was written with so many digits. -/
def fullYear (digits year : Nat) : Nat :=
  if digits = 2 then (if year < 50 then 2000 + year else 1900 + year)
  else if digits = 3 then 1900 + year
  else year

/-- The old zone names with their hours. -/
def zoneHours : List (String × Int) :=
  [("gmt", 0), ("ut", 0), ("z", 0), ("edt", -4), ("est", -5), ("cdt", -5), ("cst", -6),
   ("mdt", -6), ("mst", -7), ("pdt", -7), ("pst", -8)]

/-- The seconds that a named zone is ahead. -/
def namedZone? (name : List Char) : Option Int :=
  let low := name.map Char.toLower
  match zoneHours.find? (fun zone => zone.1.toList == low) with
  | some zone => some (3600 * zone.2)
  | none =>
      match low with
      | [c] => if c ≠ 'j' then some 0 else none
      | _ => none

/-- The seconds that a zone of two digits for hours and two for minutes is ahead;
there are at most 59 minutes. -/
def zoneDigits (sign : Int) (cs : List Char) : Option (Int × List Char) := do
  let (hours, cs) ← number 2 2 cs
  let (minutes, cs) ← number 2 2 cs
  if minutes ≤ 59 then some (sign * (3600 * hours + 60 * minutes), cs) else none

/-- The seconds that a zone is ahead. -/
def zone : Reader Int := fun cs =>
  let name := cs.takeWhile Char.isAlpha
  if name ≠ [] then (namedZone? name).map fun seconds => (seconds, cs.dropWhile Char.isAlpha)
  else
    match cs with
    | '+' :: rest => zoneDigits 1 rest
    | '-' :: rest => zoneDigits (-1) rest
    | _ => none

/-! ## Comments -/

/-- What follows the end of a comment that is open `depth + 1` times.  A backslash
takes the character after it along. -/
def closeComment : Nat → List Char → Option (List Char)
  | _, [] => none
  | 0, ')' :: rest => some rest
  | depth + 1, ')' :: rest => closeComment depth rest
  | depth, '(' :: rest => closeComment (depth + 1) rest
  | _, ['\\'] => none
  | depth, '\\' :: _ :: rest => closeComment depth rest
  | depth, _ :: rest => closeComment depth rest

theorem length_closeComment : ∀ {depth : Nat} {cs rest : List Char},
    closeComment depth cs = some rest → rest.length < cs.length := by
  intro depth cs
  fun_induction closeComment depth cs with
  | case1 => intro _ h; cases h
  | case2 => intro _ h; cases h; simp
  | case3 _ _ ih => intro _ h; have := ih h; simp; omega
  | case4 _ _ ih => intro _ h; have := ih h; simp; omega
  | case5 => intro _ h; cases h
  | case6 _ _ _ ih => intro _ h; have := ih h; simp; omega
  | case7 _ _ _ _ _ _ _ _ ih => intro _ h; have := ih h; simp; omega

theorem length_comment {cs inside rest : List Char} (htrim : Text.trimStart cs = '(' :: inside)
    (hclose : closeComment 0 inside = some rest) : rest.length < cs.length := by
  have hrest := length_closeComment hclose
  have hdrop : (Text.trimStart cs).length ≤ cs.length :=
    (List.dropWhile_sublist _).length_le
  rw [htrim, List.length_cons] at hdrop
  omega

/-- What follows the comments in front. -/
def skipComments (cs : List Char) : List Char :=
  match htrim : Text.trimStart cs with
  | '(' :: inside =>
      match hclose : closeComment 0 inside with
      | some rest =>
          have := length_comment htrim hclose
          skipComments rest
      | none => cs
  | _ => cs
termination_by cs.length

/-! ## The whole date -/

/-- The weekday in front, if there is one; a comma has to follow it. -/
def leadingWeekday (cs : List Char) : Option (Option Weekday × List Char) :=
  match weekdayName cs with
  | some (w, ',' :: rest) => some (some w, rest)
  | some _ => none
  | none => some (none, cs)

/-- The seconds after a second colon, if there is one. -/
def optionalSeconds (cs : List Char) : Option (Option Nat × List Char) :=
  match Text.trimStart cs with
  | ':' :: rest => (number 2 2 rest).map fun (n, after) => (some n, after)
  | _ => some (none, cs)

/-- The moment, as written, of the date of a message; the text must be read to
its end, and the zone must lie less than a day away. -/
def moment? (cs : List Char) : Option Moment := do
  let (weekday, cs) ← leadingWeekday (Text.trimStart cs)
  let (day, cs) ← number 1 2 (Text.trimStart cs)
  let cs ← blanks cs
  let (month, cs) ← shortMonthName cs
  let cs ← blanks cs
  let (year, afterYear) ← longNumber 2 cs
  let year := fullYear (cs.length - afterYear.length) year
  let cs ← blanks afterYear
  let (hour, cs) ← number 2 2 cs
  let cs ← char ':' (Text.trimStart cs)
  let (minute, cs) ← number 2 2 (Text.trimStart cs)
  let (second, cs) ← optionalSeconds cs
  let cs ← blanks cs
  let (offset, cs) ← zone cs
  let m ← Fields.moment?
    { year := some (year : Int), month := some month, day := some day, weekday := weekday,
      hour := some hour, minute := some minute, second := second }
  if skipComments cs = [] ∧ -86400 < offset ∧ offset < 86400 ∧ m.fitsZone offset then some m
  else none

end RecordQuery.Calendar.Mail
