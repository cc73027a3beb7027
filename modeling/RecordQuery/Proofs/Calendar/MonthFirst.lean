/-
# Dates with the month first

The layouts are tried in a fixed order, and the first that reads a beginning of the text
wins; what it leaves is not looked at.  Of the layouts that have slashes, the one with the
year first comes before the one with the month first, and it is content with less:

    02/08/2023
    year 2, month 8, day 20, and "23" is left

So a date that is written with the month first comes out right only if that reading is no
day.  Nothing else stands in its way: mail dates and timestamps have no slash, and every
other layout asks for another mark, or for a name or a number where a slash stands
(`misses_slashed`).

`Date.takenFor` is the day that comes out, and `takenFor_eq_self_iff` says for which dates
it is the right one.
-/
import RecordQuery.Proofs.Calendar.Zoned
import RecordQuery.Proofs.Outcome
import RecordQuery.Proofs.Query.Aggregate

namespace RecordQuery

namespace Calendar

/-! ## Two digits and a slash

Of the layouts that need no mark but slashes, some stop at the first slash: those with a name or
another number behind the first one. -/

section Slash

variable {n : Nat} {f : Fields} {tail : List Char}

theorem trimStart_slash : Text.trimStart ('/' :: tail) = '/' :: tail :=
  Text.trimStart_cons (by decide) tail

theorem shortNumber_slash : shortNumber ('/' :: tail) = none :=
  shortNumber_cons (by decide) (by decide) tail

theorem yearNumber_slash (hn : n < 100) :
    yearNumber (padded 2 n ++ '/' :: tail) = some ((n : Int), '/' :: tail) :=
  yearNumber_padded hn (Or.inr ⟨by decide, endsDigits_cons (by decide) tail⟩)

theorem read_name_second (hn : n < 100) {name : Item} (hname : name ∈ nameItems) :
    Layout.read f (wordDate name) (padded 2 n ++ '/' :: tail) = none := by
  have hday : Item.day.read f (padded 2 n ++ '/' :: tail)
      = some ({ f with day := some n }, '/' :: tail) := by
    rw [Item.read, shortNumber_padded hn, Option.map_some]
  have hspace : Item.space.read { f with day := some n } ('/' :: tail)
      = some ({ f with day := some n }, '/' :: tail) := by
    rw [Item.read, trimStart_slash]
  have hslash : name.read { f with day := some n } ('/' :: tail) = none :=
    read_name_eq_none hname (by decide) tail
  simp only [wordDate, Layout.read, hday, hspace, hslash]

theorem read_number_second (hn : n < 100) (layout : Layout) :
    Layout.read f (.year :: .month :: layout) (padded 2 n ++ '/' :: tail) = none := by
  simp only [Layout.read, Item.read, yearNumber_slash hn, Option.map_some, shortNumber_slash,
    Option.map_none]

end Slash

/-! ## Month, day and year between slashes -/

/-- Two digits, a slash, two digits, a slash, and four digits. -/
def slashed (month day year : Nat) : List Char :=
  padded 2 month ++ '/' :: (padded 2 day ++ '/' :: padded 4 year)

section Slashed

variable {month day year : Nat}

/-- The layout with the year first reads the beginning of the year as the day, and leaves the
rest of it. -/
theorem read_yearFirst (hmonth : month < 100) (hday : day < 100) (hyear : year < 10000) :
    Layout.read {} (numericDate '/') (slashed month day year)
      = some { year := some (month : Int), month := some day, day := some (year / 100) } := by
  have hhalves : padded 4 year = padded 2 (year / 100) ++ padded 2 year := padded_add 2 2 year
  have hfirst : year / 100 < 100 := by omega
  simp only [slashed, numericDate, Layout.read, Item.read, yearNumber_slash hmonth,
    char_cons_self, shortNumber_padded hday, hhalves, shortNumber_padded hfirst, Option.map_some]

theorem read_monthFirst (hmonth : month < 100) (hday : day < 100) (hyear : year < 10000) :
    Layout.read {} [.month, .char '/', .day, .char '/', .year] (slashed month day year)
      = some { year := some (year : Int), month := some month, day := some day } := by
  have hfour : yearNumber (padded 4 year) = some ((year : Int), []) := by
    have hread := @yearNumber_padded 3 year [] hyear (Or.inl rfl)
    rwa [List.append_nil] at hread
  simp only [slashed, Layout.read, Item.read, shortNumber_padded hmonth, char_cons_self,
    shortNumber_padded hday, hfour, Option.map_some]

/-! ### All the layouts -/

theorem misses_slashed (hmonth : month < 100) :
    Misses (slashed month day year) ['/']
      [wordDate .shortMonth, wordDate .longMonth, [.year, .month, .day]] := by
  refine ⟨?_, ?_⟩
  · exact (onlyMarks_padded _ _ _).append (.mark List.mem_cons_self
      ((onlyMarks_padded _ _ _).append (.mark List.mem_cons_self (onlyMarks_padded _ _ _))))
  · simp only [List.forall_mem_cons]
    exact ⟨read_name_second hmonth (by decide), read_name_second hmonth (by decide),
      read_number_second hmonth _, List.forall_mem_nil _⟩

/-- No date with a time is found in the text. -/
theorem findSome?_moment?_slashed (hmonth : month < 100) :
    momentLayouts.findSome? (·.moment? (slashed month day year)) = none := by
  have hruled : ∀ layout ∈ momentLayouts, RuledOut ['/']
      [wordDate .shortMonth, wordDate .longMonth, [.year, .month, .day]] layout := by
    decide
  rw [List.findSome?_eq_none_iff]
  exact fun layout hlayout => (misses_slashed hmonth).moment?_eq_none (hruled layout hlayout)

theorem Fields.date?_of_parts (y : Int) (m d : Nat) :
    Fields.date? { year := some y, month := some m, day := some d } = Date.of? y m d := by
  show (Date.of? y m d).bind some = _
  exact Option.bind_fun_some _

/-- A day with the year first is found before the one with the month first. -/
theorem findSome?_date?_slashed (hmonth : month < 100) (hday : day < 100)
    (hyear : year < 10000) :
    dateLayouts.findSome? (·.date? (slashed month day year))
      = (Date.of? month day (year / 100) <|> Date.of? year month day) := by
  have hnone : ∀ layout, RuledOut ['/'] [wordDate .shortMonth, wordDate .longMonth,
      [.year, .month, .day]] layout → layout.date? (slashed month day year) = none :=
    fun _ => (misses_slashed hmonth).date?_eq_none
  have hhyphen := hnone (numericDate '-') (by decide)
  have hyearFirst : (numericDate '/').date? (slashed month day year)
      = Date.of? month day (year / 100) := by
    rw [Layout.date?, read_yearFirst hmonth hday hyear, Option.bind_some, Fields.date?_of_parts]
  have hmonthFirst : Layout.date? [.month, .char '/', .day, .char '/', .year]
      (slashed month day year) = Date.of? year month day := by
    rw [Layout.date?, read_monthFirst hmonth hday hyear, Option.bind_some, Fields.date?_of_parts]
  have hweekday := hnone (afterWeekday (wordDate .shortMonth)) (by decide)
  have hshort := hnone (wordDate .shortMonth) (by decide)
  have hlong := hnone (wordDate .longMonth) (by decide)
  have hshortFirst := hnone (commaDate .shortMonth) (by decide)
  have hlongFirst := hnone (commaDate .longMonth) (by decide)
  have hcompact := hnone [.year, .month, .day] (by decide)
  simp only [dateLayouts, List.findSome?_cons, List.findSome?_nil, hhyphen, hyearFirst,
    hweekday, hshort, hlong, hshortFirst, hlongFirst, hmonthFirst, hcompact]
  cases Date.of? month day (year / 100) <;> cases Date.of? year month day <;> rfl

/-! ### Mail dates and timestamps -/

/-- A mail date has a blank behind the day. -/
theorem mail_slashed (hmonth : month < 100) (behind : List Char) :
    Mail.moment? (slashed month day year ++ behind) = none := by
  have hday : ∀ cs, number 1 2 (padded 2 month ++ cs) = some (month, cs) :=
    number_padded_self hmonth (by decide)
  have hblanks : ∀ cs, blanks ('/' :: cs) = none := Mail.blanks_cons (by decide)
  rw [slashed, List.append_assoc, List.cons_append, Mail.moment?_padded]
  simp only [Mail.fromDay, trimStart_padded, hday, hblanks, Option.bind_eq_bind,
    Option.bind_some, Option.bind_none]

/-- A timestamp begins with four digits. -/
theorem timestamp_slashed (hmonth : month < 100) (behind : List Char) :
    Timestamp.moment? (slashed month day year ++ behind) = none := by
  rw [slashed, List.append_assoc, List.cons_append]
  exact Timestamp.moment?_padded hmonth (by decide) _

theorem isDateText_slashed (month day year : Nat) : IsDateText (slashed month day year) where
  toIsPart := (isPart_padded 1 month).join ['/'] rfl
    ((isPart_padded 1 day).join ['/'] rfl (isPart_padded 3 year))
  not_digits := Or.inr ⟨'/', List.mem_append_right _ List.mem_cons_self, by decide⟩

end Slashed

end Calendar

/-! ## Dates -/

namespace Date

open Calendar

/-- The date written as month, day and year. -/
def monthFirst (d : Date) : List Char :=
  slashed d.month d.day d.year.toNat

/-- The day that this text is taken for: year, month and day in the order in which they would
stand with the year first, if there is such a day. -/
def takenFor (d : Date) : Date :=
  (Date.of? d.month d.day (d.year.toNat / 100)).getD d

theorem of?_of_isValid {d : Date} (h : d.IsValid) : Date.of? d.year d.month d.day = some d :=
  if_pos h

theorem takenFor_of_isValid {d : Date}
    (h : (Date.mk d.month d.day (d.year.toNat / 100)).IsValid) :
    d.takenFor = ⟨d.month, d.day, d.year.toNat / 100⟩ := by
  rw [takenFor, Date.of?, if_pos h, Option.getD_some]

theorem takenFor_of_not_isValid {d : Date}
    (h : ¬ (Date.mk d.month d.day (d.year.toNat / 100)).IsValid) : d.takenFor = d := by
  rw [takenFor, Date.of?, if_neg h, Option.getD_none]

/-- A day that the text could be taken for. -/
theorem isValid_yearFirst_iff {d : Date} (hd : d.IsValid) (hfirst : 1000 ≤ d.year) :
    (Date.mk d.month d.day (d.year.toNat / 100)).IsValid
      ↔ d.day ≤ 12 ∧ d.year.toNat / 100 ≤ daysInMonth d.month d.day := by
  obtain ⟨-, -, hmonth, hmonth', hday, hday'⟩ := hd
  have hcentury : 1 ≤ d.year.toNat / 100 := by omega
  constructor
  · rintro ⟨-, -, -, htwelve, -, hlength⟩
    exact ⟨htwelve, hlength⟩
  · rintro ⟨htwelve, hlength⟩
    refine ⟨?_, ?_, hday, htwelve, hcentury, hlength⟩
    · show minYear ≤ (d.month : Int)
      unfold minYear
      omega
    · show (d.month : Int) ≤ maxYear
      unfold maxYear
      omega

/-- The date itself comes out when the text has no day with the year first. -/
theorem takenFor_eq_self_iff {d : Date} (hd : d.IsValid) (hfirst : 1000 ≤ d.year) :
    d.takenFor = d ↔ 12 < d.day ∨ daysInMonth d.month d.day < d.year.toNat / 100 := by
  have hiff := isValid_yearFirst_iff hd hfirst
  constructor
  · intro heq
    by_contra hnot
    rw [takenFor_of_isValid (hiff.mpr (by omega))] at heq
    have hyear : (d.month : Int) = d.year := congrArg Date.year heq
    have hmonth : d.month ≤ 12 := hd.2.2.2.1
    omega
  · intro h
    apply takenFor_of_not_isValid
    rw [hiff]
    omega

theorem isValid_takenFor {d : Date} (hd : d.IsValid) : d.takenFor.IsValid := by
  by_cases h : (Date.mk d.month d.day (d.year.toNat / 100)).IsValid
  · rw [takenFor_of_isValid h]
    exact h
  · rw [takenFor_of_not_isValid h]
    exact hd

/-- What the layouts make of the text, whatever is behind it. -/
theorem parseMoment?_monthFirst {d : Date} (hd : d.IsValid) (hfirst : 1000 ≤ d.year)
    (hlast : d.year ≤ 9999) {behind : List Char} (hbehind : Remark behind) :
    parseMoment? (d.monthFirst ++ behind) = some (Moment.midnight d.takenFor) := by
  have hmonth : d.month < 100 := by
    have htwelve : d.month ≤ 12 := hd.2.2.2.1
    omega
  have hday : d.day < 100 := by
    have hlength : d.day ≤ daysInMonth d.year d.month := hd.2.2.2.2.2
    have hle := daysInMonth_le d.year d.month
    omega
  have hyear : d.year.toNat < 10000 := by omega
  have hcast : (d.year.toNat : Int) = d.year := Int.toNat_of_nonneg (by omega)
  refine (isDateText_slashed _ _ _).parseMoment?_append hbehind ?_ ?_ ?_
  · intro m hm
    rw [mail_slashed hmonth] at hm
    cases hm
  · intro m hm
    rw [timestamp_slashed hmonth] at hm
    cases hm
  · rw [findSome?_moment?_slashed hmonth, findSome?_date?_slashed hmonth hday hyear,
      hcast, of?_of_isValid hd, takenFor]
    cases Date.of? d.month d.day (d.year.toNat / 100) <;> rfl

end Date

/-! ## The parts of a date in a query -/

/-- The year of a day of the calendar is within 64 bits. -/
theorem Date.toInt_year {d : Date} (hd : d.IsValid) : (Int64.ofInt d.year).toInt = d.year := by
  have hmin : Calendar.minYear ≤ d.year := hd.1
  have hmax : d.year ≤ Calendar.maxYear := hd.2.1
  unfold Calendar.minYear at hmin
  unfold Calendar.maxYear at hmax
  exact Int64.toInt_ofInt_of_le (by omega) (by omega)

theorem Date.toInt_month {d : Date} (hd : d.IsValid) :
    (Int64.ofInt d.month).toInt = d.month := by
  have htwelve : d.month ≤ 12 := hd.2.2.2.1
  exact Int64.toInt_ofInt_of_le (by omega) (by omega)

/-- A part of a date is taken from the moment that the argument stands for. -/
theorem datePart_of_resolve {function : Builtin} {arg : Reading} {e : Entry} {v : Value}
    {m : Moment} (part : Moment → Int) (harg : arg e = .ok v)
    (hm : Calendar.resolve function.name v = .ok (some m)) :
    datePart function part [arg] e = .ok (.integer (Int64.ofInt (part m))) := by
  rw [datePart, Outcome.bind_eq_ok_iff]
  exact ⟨v, harg, Outcome.bind_eq_ok_iff.mpr ⟨some m, hm, rfl⟩⟩

section Parts

variable {fs : Registry} {arg : Expr} {e : Entry} {v : Value} {m : Moment}

theorem eval_year (h : fs.Provides .year) (harg : arg.eval fs e = .ok v)
    (hm : Calendar.resolve "year" v = .ok (some m)) :
    (Expr.call "year" [arg]).eval fs e = .ok (.integer (Int64.ofInt m.date.year)) := by
  refine (congrFun (eval_call_of_provides h [arg]) e).trans ?_
  exact datePart_of_resolve _ harg hm

theorem eval_month (h : fs.Provides .month) (harg : arg.eval fs e = .ok v)
    (hm : Calendar.resolve "month" v = .ok (some m)) :
    (Expr.call "month" [arg]).eval fs e = .ok (.integer (Int64.ofInt m.date.month)) := by
  refine (congrFun (eval_call_of_provides h [arg]) e).trans ?_
  exact datePart_of_resolve _ harg hm

end Parts

/-! ## Main result -/

open Calendar

/-- The text of a date from the years 1000 to 9999, with the month first and with any
remark behind it, stands for midnight of the day that it is taken for, and year and month
are those of that day.  It is the date itself unless the day is at most 12 and the first two
digits of the year are a day of that month, counted in the year with the number of the month. -/
theorem resolve_monthFirst_iff (fs : Registry) {d : Date} (hd : d.IsValid)
    (hfirst : 1000 ≤ d.year) (hlast : d.year ≤ 9999) {behind : List Char}
    (hbehind : Remark behind) :
    (∀ function, resolve function (.text (String.ofList (d.monthFirst ++ behind)))
        = .ok (some (Moment.midnight d.takenFor)))
      ∧ ((∀ function, resolve function (.text (String.ofList (d.monthFirst ++ behind)))
            = .ok (some (Moment.midnight d)))
          ↔ 12 < d.day ∨ daysInMonth d.month d.day < d.year.toNat / 100)
      ∧ ∀ (arg : Expr) (e : Entry),
          arg.eval fs e = .ok (.text (String.ofList (d.monthFirst ++ behind))) →
            (fs.Provides .year → ∃ n : Int64, n.toInt = d.takenFor.year
              ∧ (Expr.call "year" [arg]).eval fs e = .ok (.integer n))
            ∧ (fs.Provides .month → ∃ n : Int64, n.toInt = d.takenFor.month
              ∧ (Expr.call "month" [arg]).eval fs e = .ok (.integer n)) := by
  have hresolve : ∀ function, resolve function (.text (String.ofList (d.monthFirst ++ behind)))
      = .ok (some (Moment.midnight d.takenFor)) := by
    intro function
    refine (isDateText_slashed _ _ _).resolve_append hbehind ?_ function
    intro behind' hbehind'
    exact Date.parseMoment?_monthFirst hd hfirst hlast hbehind'
  have hvalid := Date.isValid_takenFor hd
  refine ⟨hresolve, ?_, ?_⟩
  · have hself := Date.takenFor_eq_self_iff hd hfirst
    rw [← hself]
    constructor
    · intro h
      have hboth := (hresolve "year").symm.trans (h "year")
      simpa [Moment.midnight] using hboth
    · intro h
      rwa [h] at hresolve
  · intro arg e harg
    constructor
    · intro hyear
      exact ⟨_, Date.toInt_year hvalid, eval_year hyear harg (hresolve "year")⟩
    · intro hmonth
      exact ⟨_, Date.toInt_month hvalid, eval_month hmonth harg (hresolve "month")⟩

/-- The last day of the month is past 12, so this date comes out right. -/
theorem resolve_monthFirst_december :
    (Date.mk 2023 12 31).IsValid
      ∧ Remark " +1100 (AEDT)".toList
      ∧ resolve "year" (.text "12/31/2023 +1100 (AEDT)") = .ok (some (.midnight ⟨2023, 12, 31⟩))
      ∧ (∃ n : Int64, n.toInt = 2023
          ∧ (Expr.call "year" [.literal "12/31/2023 +1100 (AEDT)"]).eval Registry.full .blank
            = .ok (.integer n))
      ∧ ∃ n : Int64, n.toInt = 12
          ∧ (Expr.call "month" [.literal "12/31/2023 +1100 (AEDT)"]).eval Registry.full .blank
            = .ok (.integer n) := by
  have hvalid : (Date.mk 2023 12 31).IsValid := by decide
  have hplus : EndsDate '+' := ⟨by decide, by decide, by decide, by decide⟩
  have hspace : ∀ b ∈ [' '], Text.isBlank b = true := by
    intro b hb
    rw [List.mem_singleton.mp hb]
    rfl
  have hbehind : Remark " +1100 (AEDT)".toList := .cut "1100 (AEDT)".toList hspace hplus
  obtain ⟨-, hright, hparts⟩ := resolve_monthFirst_iff Registry.full hvalid (by decide)
    (by decide) hbehind
  obtain ⟨hyear, hmonth⟩ := hparts (.literal "12/31/2023 +1100 (AEDT)") .blank rfl
  exact ⟨hvalid, hbehind, hright.mpr (Or.inl (by decide)) "year",
    hyear (Registry.provides_full .year), hmonth (Registry.provides_full .month)⟩

/-- The eighth of February comes out as the twentieth of August of the year 2. -/
theorem resolve_monthFirst_february :
    (Date.mk 2023 2 8).IsValid
      ∧ Remark []
      ∧ String.ofList ((Date.mk 2023 2 8).monthFirst ++ []) = "02/08/2023"
      ∧ resolve "year" (.text "02/08/2023") = .ok (some (.midnight ⟨2, 8, 20⟩))
      ∧ resolve "year" (.text "02/08/2023") ≠ .ok (some (.midnight ⟨2023, 2, 8⟩))
      ∧ (Expr.call "year" [.literal "02/08/2023"]).eval Registry.full .blank
        = .ok (.integer 2) := by
  have hread : resolve "year" (.text "02/08/2023") = .ok (some (.midnight ⟨2, 8, 20⟩)) := by
    rfl
  refine ⟨by decide, .none, by decide, hread, ?_, rfl⟩
  rw [hread]
  intro h
  cases h

end RecordQuery
