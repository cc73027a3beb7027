/-
# Dates with a zone

Mail dates and timestamps are read to their end, the zone included, and a text that is none of
them is left to the layouts.  The zone is anything here: a remark may be one, as in

    Wed, 08 Feb 2023 19:00:46 +1100 (AEDT)

or may not.  So these readers are not said to read the text of a date.  They make nothing else
of it than the moment that is written (`Mail.eq_of_mem_fromTime`,
`Timestamp.eq_of_mem_fromSeparator`), and nothing of any other text.

Both are cut where the date ends, since what follows is read in the same way for all dates.
-/
import RecordQuery.Proofs.Calendar.Layout

namespace RecordQuery.Calendar

/-! ## Mail dates -/

namespace Mail

/-- What is read behind the year. -/
def fromTime (f : Fields) (cs : List Char) : Option Moment := do
  let cs ← blanks cs
  let (hour, cs) ← number 2 2 cs
  let cs ← char ':' (Text.trimStart cs)
  let (minute, cs) ← number 2 2 (Text.trimStart cs)
  let (second, cs) ← optionalSeconds cs
  let cs ← blanks cs
  let (offset, cs) ← zone cs
  let m ← Fields.moment? { f with hour := some hour, minute := some minute, second := second }
  if skipComments cs = [] ∧ -86400 < offset ∧ offset < 86400 ∧ m.fitsZone offset then some m
  else none

/-- What is read behind the weekday. -/
def fromDay (weekday : Option Weekday) (cs : List Char) : Option Moment := do
  let (day, cs) ← number 1 2 (Text.trimStart cs)
  let cs ← blanks cs
  let (month, cs) ← shortMonthName cs
  let cs ← blanks cs
  let (year, afterYear) ← longNumber 2 cs
  let year := fullYear (cs.length - afterYear.length) year
  fromTime { year := some (year : Int), month := some month, day := some day, weekday := weekday }
    afterYear

theorem moment?_eq (cs : List Char) :
    moment? cs = (leadingWeekday (Text.trimStart cs)).bind fun (w, cs) => fromDay w cs :=
  rfl

theorem blanks_space (cs : List Char) : blanks (' ' :: cs) = some (Text.trimStart cs) := by
  rw [blanks, if_pos (by decide), trimStart_space]

theorem blanks_cons {c : Char} (h : Text.isBlank c = false) (rest : List Char) :
    blanks (c :: rest) = none := by
  rw [blanks, h, if_neg Bool.false_ne_true]

/-! ### Time and zone -/

theorem fromTime_eq_none {f : Fields} {behind : List Char} (h : Remark behind) :
    fromTime f behind = none := by
  have hnumber : number 2 2 (Text.trimStart behind) = none :=
    number_eq_none (by decide) (by decide) h.endsDigits_trimStart
  cases hblanks : blanks behind with
  | none => rw [fromTime, hblanks, Option.bind_eq_bind, Option.bind_none]
  | some cs =>
      have hcs : cs = Text.trimStart behind := by
        cases behind with
        | nil => cases hblanks
        | cons c rest =>
            rw [blanks] at hblanks
            split at hblanks
            · exact (Option.some.inj hblanks).symm
            · cases hblanks
      rw [fromTime, hblanks, hcs, Option.bind_eq_bind, Option.bind_some, hnumber]
      rfl

/-- Whatever zone is read behind the time of day, the moment is the one that is written. -/
theorem eq_of_mem_fromTime {f : Fields} {m m' : Moment} (hm : m.IsSecond)
    (hd : m.date.FourDigits) (hf : f.OfDate m.date) (hwhole : f.nanosecond = none)
    {behind : List Char} (h : m' ∈ fromTime f (' ' :: (clockText m ++ behind))) : m' = m := by
  have hhour : m.hour < 100 := Nat.lt_of_le_of_lt hm.hour (by decide)
  have hminute : m.minute < 100 := Nat.lt_of_le_of_lt hm.minute (by decide)
  have hsecond : m.second < 100 := Nat.lt_of_le_of_lt hm.second (by decide)
  have hcolon : ∀ cs, Text.trimStart (':' :: cs) = ':' :: cs := Text.trimStart_cons (by decide)
  have htwo : ∀ {n : Nat} (cs : List Char), n < 100 →
      number 2 2 (padded 2 n ++ cs) = some (n, cs) :=
    fun cs hn => number_padded_self hn (Nat.le_refl 2) cs
  have hread : Fields.moment?
      { f with hour := some m.hour, minute := some m.minute, second := some m.second } = some m :=
    (hf.timed hwhole).moment?_eq hm hd.isValid
  simp only [fromTime, clockText, List.append_assoc, List.cons_append, blanks_space,
    trimStart_padded, htwo _ hhour, hcolon, char_cons_self, htwo _ hminute, optionalSeconds,
    htwo _ hsecond, Option.map_some, Option.bind_eq_bind, Option.bind_some, hread] at h
  obtain ⟨cs, -, h⟩ := Option.bind_eq_some_iff.mp h
  obtain ⟨⟨offset, after⟩, -, h⟩ := Option.bind_eq_some_iff.mp h
  split at h
  · exact (Option.some.inj h).symm
  · cases h

/-! ### Day, month and year -/

theorem number_alpha {c : Char} (hc : c.isAlpha = true) (rest : List Char) :
    number 1 2 (Text.trimStart (c :: rest)) = none := by
  obtain ⟨-, hblank, hdigit⟩ := isAlpha_spec hc
  rw [Text.trimStart_cons hblank]
  exact number_eq_none (by decide) (by decide) (endsDigits_cons hdigit rest)

theorem leadingWeekday_padded (width n : Nat) (rest : List Char) :
    leadingWeekday (padded (width + 1) n ++ rest) = some (none, padded (width + 1) n ++ rest) := by
  obtain ⟨c, cs, hcons, hc⟩ := exists_padded_cons width n
  rw [leadingWeekday, hcons, List.cons_append, weekdayName_eq_none (isLower_toLower_of_isDigit hc)]

section Date

variable {d : Date} (hd : d.FourDigits) (weekday : Option Weekday) (rest : List Char)

include hd

/-- The fields of a date in words, with the weekday that was written in front. -/
theorem fromDay_wordText (hrest : EndsDigits rest) :
    fromDay weekday (wordText .short d ++ rest)
      = fromTime
          { year := some d.year, month := some d.month, day := some d.day, weekday := weekday }
          rest := by
  have hday : ∀ cs, number 1 2 (padded 2 d.day ++ cs) = some (d.day, cs) :=
    number_padded_self hd.day_lt (by decide)
  have hmonth := shortMonthName_short hd.month_pos hd.month_le
  have hyear : longNumber 2 (padded 4 d.year.toNat ++ rest) = some (d.year.toNat, rest) :=
    longNumber_padded hd.year_lt (by decide) hrest
  have hdigits : (padded 4 d.year.toNat ++ rest).length - rest.length = 4 := by
    rw [List.length_append, length_padded, Nat.add_sub_cancel]
  have hfull : fullYear 4 d.year.toNat = d.year.toNat := rfl
  simp only [fromDay, wordText, List.append_assoc, List.cons_append, trimStart_padded, hday,
    blanks_space, trimStart_month hd, hmonth, hyear, hdigits, hfull, hd.toNat_year,
    Option.bind_eq_bind, Option.bind_some]

/-- The long name of a month has no blank behind its first three letters. -/
theorem fromDay_wordText_long (hmay : d.month ≠ 5) :
    fromDay weekday (wordText .long d ++ rest) = none := by
  obtain ⟨c, cs, hc, hread⟩ := shortMonthName_long hd.month_pos hd.month_le hmay
    (' ' :: (padded 4 d.year.toNat ++ rest))
  have hday : ∀ cs, number 1 2 (padded 2 d.day ++ cs) = some (d.day, cs) :=
    number_padded_self hd.day_lt (by decide)
  have hblanks : blanks (c :: cs) = none := blanks_cons (isAlpha_spec hc).2.1 cs
  simp only [fromDay, wordText, List.append_assoc, List.cons_append, trimStart_padded, hday,
    blanks_space, trimStart_month hd, hread, hblanks, Option.bind_eq_bind, Option.bind_some,
    Option.bind_none]

end Date

/-! ### Whole texts -/

theorem fromDay_space (weekday : Option Weekday) (cs : List Char) :
    fromDay weekday (' ' :: cs) = fromDay weekday cs := by
  rw [fromDay, trimStart_space]
  rfl

theorem moment?_padded (width n : Nat) (rest : List Char) :
    moment? (padded (width + 1) n ++ rest) = fromDay none (padded (width + 1) n ++ rest) := by
  rw [moment?_eq, trimStart_padded, leadingWeekday_padded, Option.bind_some]

theorem moment?_wordText (style : MonthStyle) (d : Date) (rest : List Char) :
    moment? (wordText style d ++ rest) = fromDay none (wordText style d ++ rest) := by
  rw [wordText, List.append_assoc, moment?_padded]

/-- The weekday of a mail date has a comma behind it. -/
theorem moment?_weekday (w : Weekday) (rest : List Char) :
    moment? (w.text ++ ',' :: rest) = fromDay (some w) rest := by
  rw [moment?_eq, trimStart_weekday, leadingWeekday, weekdayName_text]
  rfl

theorem moment?_weekdayText (d : Date) (rest : List Char) :
    moment? (weekdayText d ++ rest) = fromDay (some d.weekday) (wordText .short d ++ rest) := by
  rw [weekdayText, List.append_assoc, List.cons_append, List.cons_append, moment?_weekday,
    fromDay_space]

theorem moment?_weekday_space (w : Weekday) (rest : List Char) :
    moment? (w.text ++ ' ' :: rest) = none := by
  rw [moment?_eq, trimStart_weekday, leadingWeekday, weekdayName_text]
  rfl

section Date

variable {d : Date} (hd : d.FourDigits) (rest : List Char)

include hd

/-- A mail date has the day before the month. -/
theorem moment?_month (style : MonthStyle) :
    moment? (style.text d.month ++ rest) = none := by
  have hweekday := weekdayName_month hd.month_pos hd.month_le style rest
  obtain ⟨c, cs, hcons, hc⟩ := exists_month_cons hd.month_pos hd.month_le style
  rw [moment?_eq, trimStart_month hd, leadingWeekday, hweekday, Option.bind_some, hcons,
    List.cons_append]
  show (number 1 2 _).bind _ = none
  rw [number_alpha hc, Option.bind_none]

/-- A mail date has two digits in front at most. -/
theorem moment?_year : moment? (padded 4 d.year.toNat ++ rest) = none := by
  have hyear := hd.year_lt
  have hcentury : d.year.toNat / 100 < 100 := by omega
  have hhalves : padded 4 d.year.toNat
      = padded 2 (d.year.toNat / 100) ++ padded 2 d.year.toNat := padded_add 2 2 _
  have hday : number 1 2 (padded 2 (d.year.toNat / 100) ++ (padded 2 d.year.toNat ++ rest))
      = some (d.year.toNat / 100, padded 2 d.year.toNat ++ rest) :=
    number_padded_self hcentury (by decide) _
  have hblanks : blanks (padded 2 d.year.toNat ++ rest) = none := by
    obtain ⟨c, cs, hcons, hc⟩ := exists_padded_cons 1 d.year.toNat
    rw [hcons, List.cons_append, blanks_cons (Text.isBlank_of_isDigit hc)]
  rw [moment?_padded, hhalves, List.append_assoc]
  simp only [fromDay, trimStart_padded, hday, hblanks, Option.bind_eq_bind, Option.bind_some,
    Option.bind_none]

end Date

end Mail

/-! ## Timestamps -/

namespace Timestamp

/-- What is read behind the date. -/
def fromSeparator (f : Fields) (cs : List Char) : Option Moment := do
  let cs ← separator cs
  let (hour, cs) ← number 2 2 cs
  let cs ← char ':' cs
  let (minute, cs) ← number 2 2 cs
  let cs ← char ':' cs
  let (second, cs) ← number 2 2 cs
  let (nanosecond, cs) ← fraction cs
  let (offset, cs) ← zone cs
  let m ← Fields.moment?
    { f with hour := some hour, minute := some minute, second := some second,
             nanosecond := nanosecond }
  if cs = [] ∧ m.fitsZone offset then some m else none

/-- What is read behind the year. -/
def fromYear (year : Int) (cs : List Char) : Option Moment := do
  let cs ← char '-' cs
  let (month, cs) ← number 2 2 cs
  let cs ← char '-' cs
  let (day, cs) ← number 2 2 cs
  fromSeparator { year := some year, month := some month, day := some day } cs

theorem moment?_eq (cs : List Char) :
    moment? cs = (number 4 4 cs).bind fun (year, cs) => fromYear year cs :=
  rfl

/-! ### Time and zone -/

theorem fraction_remark {behind : List Char} (h : Remark behind) :
    fraction behind = some (none, behind) := by
  unfold fraction
  split
  · rename_i rest
    rcases h.head with ⟨hblank, -⟩ | hc
    · exact absurd hblank (by decide)
    · exact absurd hc.not_mark (by decide)
  · rfl

/-- A time of day does not stand in a remark. -/
theorem fromSeparator_eq_none {f : Fields} {behind : List Char} (h : Remark behind) :
    fromSeparator f behind = none := by
  have hends : ∀ cs ∈ separator behind, EndsDigits cs := by
    intro cs hcs
    cases behind with
    | nil => cases hcs
    | cons c rest =>
        rw [separator, Option.mem_def, Option.ite_none_right_eq_some] at hcs
        obtain ⟨hmark, hrest⟩ := hcs
        cases hrest
        rcases h.head with ⟨-, hrest⟩ | hc
        · exact hrest.endsDigits
        · have hletters : ['t', 'T', ' '].all isDateChar = true := rfl
          have hdate := List.all_eq_true.mp hletters c hmark
          rw [hc.isDateChar_eq] at hdate
          cases hdate
  cases hseparator : separator behind with
  | none => rw [fromSeparator, hseparator, Option.bind_eq_bind, Option.bind_none]
  | some cs =>
      rw [fromSeparator, hseparator, Option.bind_eq_bind, Option.bind_some,
        number_eq_none (by decide) (by decide) (hends cs hseparator)]
      rfl

/-- Whatever zone is read behind the time of day, the moment is the one that is written. -/
theorem eq_of_mem_fromSeparator {f : Fields} {m m' : Moment} (hm : m.IsSecond)
    (hd : m.date.FourDigits) (hf : f.OfDate m.date) {mark : Char} (hmark : mark ∈ ['T', ' '])
    {behind : List Char} (hbehind : Remark behind)
    (h : m' ∈ fromSeparator f (mark :: (clockText m ++ behind))) : m' = m := by
  have hhour : m.hour < 100 := Nat.lt_of_le_of_lt hm.hour (by decide)
  have hminute : m.minute < 100 := Nat.lt_of_le_of_lt hm.minute (by decide)
  have hsecond : m.second < 100 := Nat.lt_of_le_of_lt hm.second (by decide)
  have hseparator : ∀ cs, separator (mark :: cs) = some cs := fun cs =>
    if_pos (List.mem_cons_of_mem _ hmark)
  have htwo : ∀ {n : Nat} (cs : List Char), n < 100 →
      number 2 2 (padded 2 n ++ cs) = some (n, cs) :=
    fun cs hn => number_padded_self hn (Nat.le_refl 2) cs
  have hread : Fields.moment?
      { f with hour := some m.hour, minute := some m.minute, second := some m.second,
               nanosecond := none } = some m :=
    Fields.OfMoment.moment?_eq ⟨⟨hf.year, hf.month, hf.day, hf.weekday⟩, rfl, rfl, rfl, rfl⟩
      hm hd.isValid
  simp only [fromSeparator, clockText, List.append_assoc, List.cons_append, hseparator,
    htwo _ hhour, char_cons_self, htwo _ hminute, htwo _ hsecond, fraction_remark hbehind,
    Option.bind_eq_bind, Option.bind_some, hread] at h
  obtain ⟨⟨offset, after⟩, -, h⟩ := Option.bind_eq_some_iff.mp h
  split at h
  · exact (Option.some.inj h).symm
  · cases h

/-! ### Whole texts -/

section Date

variable {d : Date} (hd : d.FourDigits) (rest : List Char)

include hd

theorem moment?_numericText :
    moment? (numericText '-' d ++ rest)
      = fromSeparator { year := some d.year, month := some d.month, day := some d.day } rest := by
  have htwo : ∀ {n : Nat} (cs : List Char), n < 100 →
      number 2 2 (padded 2 n ++ cs) = some (n, cs) :=
    fun cs hn => number_padded_self hn (Nat.le_refl 2) cs
  have hyear : ∀ cs, number 4 4 (padded 4 d.year.toNat ++ cs) = some (d.year.toNat, cs) :=
    number_padded_self hd.year_lt (Nat.le_refl 4)
  simp only [moment?_eq, fromYear, numericText, List.append_assoc, List.cons_append, hyear,
    char_cons_self, htwo _ hd.month_lt, htwo _ hd.day_lt, hd.toNat_year, Option.bind_eq_bind,
    Option.bind_some]

/-- There is a hyphen behind the year. -/
theorem moment?_year {c : Char} (hc : c ≠ '-') :
    moment? (padded 4 d.year.toNat ++ c :: rest) = none := by
  rw [moment?_eq, number_padded_self hd.year_lt (Nat.le_refl 4), Option.bind_some]
  show (char '-' (c :: rest)).bind _ = none
  rw [char_cons_of_ne hc, Option.bind_none]

theorem moment?_compactText : moment? (compactText d ++ rest) = none := by
  obtain ⟨c, cs, hcons, hc⟩ := exists_padded_cons 1 d.month
  have hhyphen : c ≠ '-' := by
    rintro rfl
    exact absurd hc (by decide)
  simp only [compactText, List.append_assoc, hcons, List.cons_append]
  exact moment?_year hd _ hhyphen

end Date

/-- A timestamp begins with four digits. -/
theorem moment?_padded {n : Nat} (hn : n < 100) {c : Char} (hc : c.isDigit = false)
    (rest : List Char) : moment? (padded 2 n ++ c :: rest) = none := by
  rw [moment?_eq, number_padded hn (Or.inr ⟨by decide, endsDigits_cons hc rest⟩),
    if_neg (by decide), Option.bind_none]

theorem moment?_wordText {d : Date} (hd : d.FourDigits) (style : MonthStyle) (rest : List Char) :
    moment? (wordText style d ++ rest) = none := by
  rw [wordText, List.append_assoc, List.cons_append, moment?_padded hd.day_lt (by decide)]

theorem moment?_alpha {c : Char} (hc : c.isAlpha = true) (rest : List Char) :
    moment? (c :: rest) = none := by
  rw [moment?_eq, number_eq_none (by decide) (by decide)
    (endsDigits_cons (isAlpha_spec hc).2.2 rest), Option.bind_none]

theorem moment?_weekday (w : Weekday) (rest : List Char) : moment? (w.text ++ rest) = none := by
  obtain ⟨c, cs, hcons, hc⟩ := exists_weekday_cons w
  rw [hcons, List.cons_append, moment?_alpha hc]

theorem moment?_month {d : Date} (hd : d.FourDigits) (style : MonthStyle) (rest : List Char) :
    moment? (style.text d.month ++ rest) = none := by
  obtain ⟨c, cs, hcons, hc⟩ := exists_month_cons hd.month_pos hd.month_le style
  rw [hcons, List.cons_append, moment?_alpha hc]

end Timestamp

end RecordQuery.Calendar
