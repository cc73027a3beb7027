/-
# The blocks of a date

A date or a moment is written in blocks, each as it stands in a row of the layouts: a date in
numbers or in words, a weekday, a time of day.  The layouts read it block by block:

    2023-02-08      year, month and day, with a mark between them      read_numericDate
    20230208        the same without a mark                            read_compactDate
    08 Feb 2023     day, month and year, with blanks between them      read_wordDate
    Wed, …          the weekday in front of it                         read_weekdayDate
    Feb 08, 2023    month, day and year                                read_commaDate
    19:00:46        hour, minute and second                            read_clock
    190046          the same without colons                            read_compactClock

A block fills in the fields that it stands for and leaves what is behind it to the rest of the
layout, so the lemmas are stated for any layout and any text behind the block.
-/
import RecordQuery.Proofs.Calendar.Days
import RecordQuery.Proofs.Calendar.Names
import RecordQuery.Proofs.Calendar.Seconds
import Mathlib.Data.List.DropRight

namespace RecordQuery

open Calendar

/-! ## Dates in four digits -/

/-- A day that there is, in a year that has four digits. -/
structure Date.FourDigits (d : Date) : Prop where
  isDay : d.IsDay
  first : 1000 ≤ d.year
  last : d.year ≤ 9999

namespace Date.FourDigits

variable {d : Date} (hd : d.FourDigits)

include hd

theorem isValid : d.IsValid := by
  have hfirst := hd.first
  have hlast := hd.last
  rw [Date.isValid_iff]
  refine ⟨⟨?_, ?_⟩, hd.isDay⟩
  · unfold minYear
    omega
  · unfold maxYear
    omega

theorem month_pos : 1 ≤ d.month :=
  hd.isDay.1

theorem month_le : d.month ≤ 12 :=
  hd.isDay.2.1

theorem month_lt : d.month < 100 :=
  Nat.lt_of_le_of_lt hd.month_le (by decide)

theorem day_lt : d.day < 100 := by
  have hlength : d.day ≤ daysInMonth d.year d.month := hd.isDay.2.2.2
  exact Nat.lt_of_le_of_lt (Nat.le_trans hlength (daysInMonth_le _ _)) (by decide)

theorem year_lt : d.year.toNat < 10000 := by
  have hlast := hd.last
  omega

theorem toNat_year : (d.year.toNat : Int) = d.year :=
  Int.toNat_of_nonneg (Int.le_trans (by decide) hd.first)

end Date.FourDigits

namespace Calendar

/-! ## Writing -/

/-- Year, month and day in four, two and two digits, with a character between them. -/
def numericText (c : Char) (d : Date) : List Char :=
  padded 4 d.year.toNat ++ c :: (padded 2 d.month ++ c :: padded 2 d.day)

/-- Year, month and day in eight digits. -/
def compactText (d : Date) : List Char :=
  padded 4 d.year.toNat ++ (padded 2 d.month ++ padded 2 d.day)

/-- Day, name of the month and year. -/
def wordText (style : MonthStyle) (d : Date) : List Char :=
  padded 2 d.day ++ ' ' :: (style.text d.month ++ ' ' :: padded 4 d.year.toNat)

/-- The weekday and a comma in front of the date in words. -/
def weekdayText (d : Date) : List Char :=
  d.weekday.text ++ ',' :: ' ' :: wordText .short d

/-- Name of the month, day, a comma and the year. -/
def commaText (style : MonthStyle) (d : Date) : List Char :=
  style.text d.month ++ ' ' :: (padded 2 d.day ++ ',' :: ' ' :: padded 4 d.year.toNat)

/-- Hours, minutes and seconds in two digits, between colons. -/
def clockText (m : Moment) : List Char :=
  padded 2 m.hour ++ ':' :: (padded 2 m.minute ++ ':' :: padded 2 m.second)

/-- Hours, minutes and seconds in six digits. -/
def compactClock (m : Moment) : List Char :=
  padded 2 m.hour ++ (padded 2 m.minute ++ padded 2 m.second)

/-- The day of the month in two digits, or in one where one is enough, with a blank in place
of the other or without. -/
inductive DayStyle where
  | zero
  | blank
  | bare
deriving DecidableEq

def DayStyle.text : DayStyle → Nat → List Char
  | zero, day => padded 2 day
  | blank, day => if day < 10 then ' ' :: padded 1 day else padded 2 day
  | bare, day => if day < 10 then padded 1 day else padded 2 day

theorem DayStyle.text_cases (style : DayStyle) (day : Nat) :
    style.text day = padded 2 day
      ∨ day < 10 ∧ (style.text day = padded 1 day ∨ style.text day = ' ' :: padded 1 day) := by
  by_cases hone : day < 10
  · cases style with
    | zero => exact Or.inl rfl
    | blank => exact Or.inr ⟨hone, Or.inr (if_pos hone)⟩
    | bare => exact Or.inr ⟨hone, Or.inl (if_pos hone)⟩
  · cases style with
    | zero => exact Or.inl rfl
    | blank | bare => exact Or.inl (if_neg hone)

/-- In May a date is written in one way in both styles. -/
theorem wordText_may {d : Date} (hmay : d.month = 5) : wordText .long d = wordText .short d := by
  rw [wordText, hmay, MonthStyle.text_may, wordText, hmay]

theorem commaText_may {d : Date} (hmay : d.month = 5) :
    commaText .long d = commaText .short d := by
  rw [commaText, hmay, MonthStyle.text_may, commaText, hmay]

/-- Weekday, month, day, time and year, with blanks between them. -/
def ctimeText (style : DayStyle) (m : Moment) : List Char :=
  m.date.weekday.text ++ ' ' :: (MonthStyle.short.text m.date.month ++ ' ' ::
    (style.text m.date.day ++ ' ' :: (clockText m ++ ' ' :: padded 4 m.date.year.toNat)))

/-! ## Reading -/

theorem trimStart_space (cs : List Char) : Text.trimStart (' ' :: cs) = Text.trimStart cs :=
  List.dropWhile_cons_of_pos (by decide)

theorem shortNumber_space (cs : List Char) : shortNumber (' ' :: cs) = shortNumber cs := by
  rw [shortNumber, trimStart_space, shortNumber]

theorem shortNumber_trimStart (cs : List Char) :
    shortNumber (Text.trimStart cs) = shortNumber cs := by
  simp only [shortNumber, Text.trimStart, List.dropWhile_idempotent]

/-- The day is read in every style, if no digit follows. -/
theorem shortNumber_dayText (style : DayStyle) {day : Nat} (hday : day < 100) {rest : List Char}
    (hrest : EndsDigits rest) : shortNumber (style.text day ++ rest) = some (day, rest) := by
  rcases style.text_cases day with htwo | ⟨hten, hone⟩
  · rw [htwo, shortNumber_padded hday]
  · have hread : shortNumber (padded 1 day ++ rest) = some (day, rest) := by
      rw [shortNumber, trimStart_padded, number_padded hten (Or.inr ⟨by decide, hrest⟩),
        if_pos (Nat.le_refl 1)]
    rcases hone with hone | hone
    · rw [hone, hread]
    · rw [hone, List.cons_append, shortNumber_space, hread]

theorem trimStart_weekday (w : Weekday) (rest : List Char) :
    Text.trimStart (w.text ++ rest) = w.text ++ rest := by
  obtain ⟨c, cs, hcons, hc⟩ := exists_weekday_cons w
  rw [hcons, List.cons_append, Text.trimStart_cons (isAlpha_spec hc).2.1]

theorem trimStart_wordText (style : MonthStyle) (d : Date) (rest : List Char) :
    Text.trimStart (wordText style d ++ rest) = wordText style d ++ rest := by
  rw [wordText, List.append_assoc, trimStart_padded]

theorem trimStart_clockText (m : Moment) (rest : List Char) :
    Text.trimStart (clockText m ++ rest) = clockText m ++ rest := by
  rw [clockText, List.append_assoc, trimStart_padded]

section Items

variable (f : Fields) (rest : List Char)

theorem read_char (c : Char) : (Item.char c).read f (c :: rest) = some (f, rest) := by
  rw [Item.read, char_cons_self, Option.map_some]

theorem read_space : Item.space.read f (' ' :: rest) = some (f, Text.trimStart rest) := by
  rw [Item.read, trimStart_space]

theorem read_weekday (w : Weekday) :
    Item.weekday.read f (w.text ++ rest) = some ({ f with weekday := some w }, rest) := by
  rw [Item.read, weekdayName_text, Option.map_some]

end Items

section Date

variable {d : Date} (hd : d.FourDigits) (f : Fields) (rest : List Char)

include hd

theorem trimStart_month (style : MonthStyle) :
    Text.trimStart (style.text d.month ++ rest) = style.text d.month ++ rest := by
  obtain ⟨c, cs, hcons, hc⟩ := exists_month_cons hd.month_pos hd.month_le style
  rw [hcons, List.cons_append, Text.trimStart_cons (isAlpha_spec hc).2.1]

theorem read_year :
    Item.year.read f (padded 4 d.year.toNat ++ rest)
      = some ({ f with year := some d.year }, rest) := by
  rw [Item.read, yearNumber_padded hd.year_lt (Or.inl rfl), Option.map_some, hd.toNat_year]

theorem read_month :
    Item.month.read f (padded 2 d.month ++ rest)
      = some ({ f with month := some d.month }, rest) := by
  rw [Item.read, shortNumber_padded hd.month_lt, Option.map_some]

theorem read_day :
    Item.day.read f (padded 2 d.day ++ rest) = some ({ f with day := some d.day }, rest) := by
  rw [Item.read, shortNumber_padded hd.day_lt, Option.map_some]

theorem read_name (style : MonthStyle) :
    style.item.read f (style.text d.month ++ rest)
      = some ({ f with month := some d.month }, rest) :=
  style.read_text hd.month_pos hd.month_le f rest

variable (layout : Layout)

theorem read_numericDate (c : Char) :
    Layout.read f (numericDate c ++ layout) (numericText c d ++ rest)
      = Layout.read { f with year := some d.year, month := some d.month, day := some d.day }
          layout rest := by
  simp only [numericDate, numericText, List.append_assoc, List.cons_append, List.nil_append,
    Layout.read, read_year hd, read_char, read_month hd, read_day hd]

theorem read_compactDate :
    Layout.read f (.year :: .month :: .day :: layout) (compactText d ++ rest)
      = Layout.read { f with year := some d.year, month := some d.month, day := some d.day }
          layout rest := by
  simp only [compactText, List.append_assoc, Layout.read, read_year hd, read_month hd, read_day hd]

theorem read_wordDate (style : MonthStyle) :
    Layout.read f (wordDate style.item ++ layout) (wordText style d ++ rest)
      = Layout.read { f with year := some d.year, month := some d.month, day := some d.day }
          layout rest := by
  simp only [wordDate, wordText, List.append_assoc, List.cons_append, List.nil_append,
    Layout.read, read_day hd, read_space, trimStart_month hd, read_name hd, trimStart_padded,
    read_year hd]

theorem read_weekdayDate :
    Layout.read f (afterWeekday (wordDate .shortMonth) ++ layout) (weekdayText d ++ rest)
      = Layout.read { f with weekday := some d.weekday, year := some d.year, month := some d.month,
                             day := some d.day }
          layout rest := by
  have hwords := read_wordDate hd { f with weekday := some d.weekday } rest layout .short
  rw [← hwords]
  simp only [afterWeekday, weekdayText, List.append_assoc, List.cons_append, List.nil_append,
    Layout.read, read_weekday, read_char, read_space, trimStart_wordText]
  rfl

theorem read_commaDate (style : MonthStyle) :
    Layout.read f (commaDate style.item ++ layout) (commaText style d ++ rest)
      = Layout.read { f with year := some d.year, month := some d.month, day := some d.day }
          layout rest := by
  simp only [commaDate, commaText, List.append_assoc, List.cons_append, List.nil_append,
    Layout.read, read_name hd, read_space, trimStart_padded, read_day hd, read_char, read_year hd]

end Date

section Clock

variable {m : Moment} (hm : m.IsSecond) (f : Fields) (layout : Layout) (rest : List Char)

include hm

theorem read_hour :
    Item.hour.read f (padded 2 m.hour ++ rest) = some ({ f with hour := some m.hour }, rest) := by
  rw [Item.read, shortNumber_padded (Nat.lt_of_le_of_lt hm.hour (by decide)), Option.map_some]

theorem read_minute :
    Item.minute.read f (padded 2 m.minute ++ rest)
      = some ({ f with minute := some m.minute }, rest) := by
  rw [Item.read, shortNumber_padded (Nat.lt_of_le_of_lt hm.minute (by decide)), Option.map_some]

theorem read_second :
    Item.second.read f (padded 2 m.second ++ rest)
      = some ({ f with second := some m.second }, rest) := by
  rw [Item.read, shortNumber_padded (Nat.lt_of_le_of_lt hm.second (by decide)), Option.map_some]

theorem read_clock :
    Layout.read f (clock ++ layout) (clockText m ++ rest)
      = Layout.read { f with hour := some m.hour, minute := some m.minute, second := some m.second }
          layout rest := by
  simp only [clock, clockText, List.append_assoc, List.cons_append, List.nil_append, Layout.read,
    read_hour hm, read_char, read_minute hm, read_second hm]

theorem read_spaceClock :
    Layout.read f (.space :: (clock ++ layout)) (' ' :: (clockText m ++ rest))
      = Layout.read { f with hour := some m.hour, minute := some m.minute, second := some m.second }
          layout rest := by
  rw [Layout.read, read_space, trimStart_clockText]
  exact read_clock hm f layout rest

theorem read_charClock (c : Char) :
    Layout.read f (.char c :: (clock ++ layout)) (c :: (clockText m ++ rest))
      = Layout.read { f with hour := some m.hour, minute := some m.minute, second := some m.second }
          layout rest := by
  rw [Layout.read, read_char]
  exact read_clock hm f layout rest

theorem read_compactClock (c : Char) :
    Layout.read f (.char c :: .hour :: .minute :: .second :: layout) (c :: (compactClock m ++ rest))
      = Layout.read { f with hour := some m.hour, minute := some m.minute, second := some m.second }
          layout rest := by
  simp only [compactClock, List.append_assoc, Layout.read, read_char, read_hour hm, read_minute hm,
    read_second hm]

/-- A blank in place of a digit of the day goes with the blank in front of it. -/
theorem read_ctime (hd : m.date.FourDigits) (style : DayStyle) :
    Layout.read {}
        ([.weekday, .space, .shortMonth, .space, .day, .space] ++ clock ++ [.space, .year])
        (ctimeText style m)
      = some { year := some m.date.year, month := some m.date.month, day := some m.date.day,
               weekday := some m.date.weekday, hour := some m.hour, minute := some m.minute,
               second := some m.second } := by
  have hname : ∀ f rest, Item.shortMonth.read f (MonthStyle.short.text m.date.month ++ rest)
      = some ({ f with month := some m.date.month }, rest) :=
    fun f rest => read_name hd f rest .short
  have hday : ∀ f rest, Item.day.read f (Text.trimStart (style.text m.date.day ++ ' ' :: rest))
      = some ({ f with day := some m.date.day }, ' ' :: rest) := by
    intro f rest
    rw [Item.read, shortNumber_trimStart, shortNumber_dayText style hd.day_lt
      (endsDigits_cons (by decide) rest), Option.map_some]
  have htrim := trimStart_padded 3 m.date.year.toNat []
  have hyear := fun f => read_year hd f []
  rw [List.append_nil] at htrim
  simp only [List.append_nil] at hyear
  simp only [ctimeText, List.cons_append, List.nil_append, Layout.read, read_weekday, read_space,
    trimStart_month hd, hname, hday, trimStart_clockText, read_clock hm, htrim, hyear]

end Clock

/-! ## Pieces of a date text -/

section Parts

theorem isPart_numericText {c : Char} (hc : isDateChar c = true) (d : Date) :
    IsPart (numericText c d) := by
  have hmark : [c].all isDateChar = true := by
    rw [List.all_cons, hc, List.all_nil, Bool.and_self]
  exact (isPart_padded 3 _).join [c] hmark ((isPart_padded 1 _).join [c] hmark (isPart_padded 1 _))

theorem isPart_compactText (d : Date) : IsPart (compactText d) :=
  (isPart_padded 3 _).append ((isPart_padded 1 _).append (isPart_padded 1 _))

theorem isPart_clockText (m : Moment) : IsPart (clockText m) :=
  (isPart_padded 1 _).join [':'] rfl
    ((isPart_padded 1 _).join [':'] rfl (isPart_padded 1 _))

theorem isPart_compactClock (m : Moment) : IsPart (compactClock m) :=
  (isPart_padded 1 _).append ((isPart_padded 1 _).append (isPart_padded 1 _))

variable {d : Date} (hd : d.FourDigits)

include hd

theorem isPart_wordText (style : MonthStyle) : IsPart (wordText style d) :=
  (isPart_padded 1 _).join [' '] rfl
    ((isPart_month hd.month_pos hd.month_le style).join [' '] rfl (isPart_padded 3 _))

theorem isPart_weekdayText : IsPart (weekdayText d) :=
  (isPart_weekday _).join [',', ' '] rfl (isPart_wordText hd .short)

theorem isPart_commaText (style : MonthStyle) : IsPart (commaText style d) :=
  (isPart_month hd.month_pos hd.month_le style).join [' '] rfl
    ((isPart_padded 1 _).join [',', ' '] rfl (isPart_padded 3 _))

end Parts

theorem isPart_ctimeText {m : Moment} (hd : m.date.FourDigits) (style : DayStyle) :
    IsPart (ctimeText style m) := by
  have hmonth := isPart_month hd.month_pos hd.month_le .short
  have htail : IsPart (clockText m ++ ' ' :: padded 4 m.date.year.toNat) :=
    (isPart_clockText m).join [' '] rfl (isPart_padded 3 _)
  have hday : ∀ width, IsPart (padded (width + 1) m.date.day
      ++ ' ' :: (clockText m ++ ' ' :: padded 4 m.date.year.toNat)) :=
    fun width => (isPart_padded width _).join [' '] rfl htail
  refine (isPart_weekday _).join [' '] rfl ?_
  rcases style.text_cases m.date.day with htext | ⟨-, htext | htext⟩
  · rw [htext]
    exact hmonth.join [' '] rfl (hday 1)
  · rw [htext]
    exact hmonth.join [' '] rfl (hday 0)
  · rw [htext]
    exact hmonth.join [' ', ' '] rfl (hday 0)

end Calendar

end RecordQuery
