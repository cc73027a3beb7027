/-
# Days are counted one by one

`Date.toDays` counts days by a formula, and `Date.ofDays` finds the date again by taking whole
cycles, centuries, runs and years off.  What they have to agree with is the calendar itself:

    the day after         the next day of the month, or the first of the next month, or the
                          first of January of the next year (`Date.next`)

The formula counts each such step as one day (`toDays_next`), so it counts days.  The date that
is found for a count has that count (`toDays_ofDays`), and there is no other, since a later date
has a greater one (`toDays_lt`).

No limit of the calendar comes in here.  A date is a day (`Date.IsDay`) in any year, and
`IsValid` adds that the year is within the limits.
-/
import RecordQuery.Calendar.Date
import Mathlib.Tactic.IntervalCases

namespace RecordQuery

namespace Calendar

/-! ## Years -/

/-- The days of a year. -/
def yearLength (year : Int) : Nat :=
  if isLeap year then 366 else 365

theorem isLeap_iff (year : Int) :
    isLeap year = true ↔ year % 4 = 0 ∧ (year % 100 ≠ 0 ∨ year % 400 = 0) := by
  simp [isLeap]

/-- Years follow each other without a gap. -/
theorem daysBeforeYear_succ (year : Int) :
    daysBeforeYear (year + 1) = daysBeforeYear year + yearLength year := by
  have hleap := isLeap_iff year
  unfold daysBeforeYear yearLength
  rw [Int.add_sub_cancel]
  by_cases h : isLeap year = true
  · rw [if_pos h]
    rw [hleap] at h
    omega
  · rw [if_neg h]
    rw [hleap] at h
    omega

theorem daysBeforeYear_le {year year' : Int} (h : year ≤ year') :
    daysBeforeYear year ≤ daysBeforeYear year' := by
  unfold daysBeforeYear
  omega

/-! ## Months -/

theorem daysBeforeMonth_one (year : Int) : daysBeforeMonth year 1 = 0 :=
  rfl

/-- Months follow each other without a gap, and the last ends with the year. -/
theorem daysBeforeMonth_succ (year : Int) {month : Nat} (h : 1 ≤ month) (h' : month ≤ 12) :
    daysBeforeMonth year (month + 1) = daysBeforeMonth year month + daysInMonth year month := by
  unfold daysBeforeMonth daysInMonth monthLengths
  cases isLeap year <;> interval_cases month <;> rfl

theorem daysBeforeMonth_thirteen (year : Int) : daysBeforeMonth year 13 = yearLength year := by
  unfold daysBeforeMonth yearLength monthLengths
  cases isLeap year <;> rfl

theorem daysInMonth_pos (year : Int) {month : Nat} (h : 1 ≤ month) (h' : month ≤ 12) :
    1 ≤ daysInMonth year month := by
  unfold daysInMonth monthLengths
  cases isLeap year <;> interval_cases month <;> decide

theorem daysInMonth_le (year : Int) (month : Nat) : daysInMonth year month ≤ 31 := by
  have hlengths : ∀ length ∈ monthLengths year, length ≤ 31 := by
    intro length hlength
    simp only [monthLengths, List.mem_cons, List.not_mem_nil, or_false] at hlength
    have hfebruary : (if isLeap year then 29 else 28) ≤ 31 := by split <;> decide
    omega
  unfold daysInMonth
  split
  · exact Nat.zero_le 31
  · rw [List.getD_eq_getElem?_getD]
    cases hlength : (monthLengths year)[month - 1]? with
    | none => exact Nat.zero_le 31
    | some length => exact hlengths length (List.mem_of_getElem? hlength)

/-- A month is over before the next one begins. -/
theorem daysBeforeMonth_le (year : Int) {month month' : Nat} (h : 1 ≤ month) (hlt : month < month')
    (h' : month' ≤ 13) :
    daysBeforeMonth year month + daysInMonth year month ≤ daysBeforeMonth year month' := by
  induction month', hlt using Nat.le_induction with
  | base => rw [daysBeforeMonth_succ year h (by omega)]
  | succ later hlater ih =>
      have hnext : daysBeforeMonth year (later + 1)
          = daysBeforeMonth year later + daysInMonth year later :=
        daysBeforeMonth_succ year (by omega) (by omega)
      have hsofar := ih (by omega)
      omega

end Calendar

namespace Date

open Calendar

/-! ## Days -/

/-- There is such a day, in whatever year. -/
def IsDay (d : Date) : Prop :=
  1 ≤ d.month ∧ d.month ≤ 12 ∧ 1 ≤ d.day ∧ d.day ≤ daysInMonth d.year d.month

theorem isValid_iff (d : Date) :
    d.IsValid ↔ (minYear ≤ d.year ∧ d.year ≤ maxYear) ∧ d.IsDay :=
  and_assoc.symm

/-- The day after. -/
def next (d : Date) : Date :=
  if d.day < daysInMonth d.year d.month then ⟨d.year, d.month, d.day + 1⟩
  else if d.month < 12 then ⟨d.year, d.month + 1, 1⟩
  else ⟨d.year + 1, 1, 1⟩

theorem isDay_next {d : Date} (h : d.IsDay) : d.next.IsDay := by
  obtain ⟨hmonth, hmonth', hday, hday'⟩ := h
  have hone : 1 ≤ 12 := by decide
  unfold next
  split
  · rename_i hinside
    exact ⟨hmonth, hmonth', Nat.le_add_left 1 d.day, hinside⟩
  · split
    · rename_i hlater
      have hnext : 1 ≤ d.month + 1 := Nat.le_add_left 1 d.month
      exact ⟨hnext, hlater, Nat.le_refl 1, daysInMonth_pos d.year hnext hlater⟩
    · exact ⟨Nat.le_refl 1, hone, Nat.le_refl 1, daysInMonth_pos (d.year + 1) (Nat.le_refl 1) hone⟩

/-- The day after is counted one day later. -/
theorem toDays_next {d : Date} (h : d.IsDay) : d.next.toDays = d.toDays + 1 := by
  obtain ⟨hmonth, hmonth', hday, hday'⟩ := h
  have hmonths := daysBeforeMonth_succ d.year hmonth hmonth'
  unfold next
  split
  · simp only [toDays]
    omega
  · split
    · simp only [toDays]
      omega
    · have hlast : d.month = 12 := by omega
      have hend : d.day = daysInMonth d.year d.month := by omega
      have hyears := daysBeforeYear_succ d.year
      have hfirst := daysBeforeMonth_one (d.year + 1)
      rw [hlast, daysBeforeMonth_thirteen] at hmonths
      rw [hlast] at hend
      simp only [toDays, hlast]
      omega

/-! ## Dates in order -/

/-- The first date is earlier. -/
def Before (d d' : Date) : Prop :=
  d.year < d'.year
    ∨ d.year = d'.year ∧ (d.month < d'.month ∨ d.month = d'.month ∧ d.day < d'.day)

theorem before_trichotomy (d d' : Date) : d.Before d' ∨ d = d' ∨ d'.Before d := by
  obtain ⟨year, month, day⟩ := d
  obtain ⟨year', month', day'⟩ := d'
  simp only [Before, Date.mk.injEq]
  omega

/-- A day lies in its year. -/
theorem toDays_bounds {d : Date} (h : d.IsDay) :
    daysBeforeYear d.year - epoch ≤ d.toDays
      ∧ d.toDays < daysBeforeYear (d.year + 1) - epoch := by
  obtain ⟨hmonth, hmonth', hday, hday'⟩ := h
  have hmonths := daysBeforeMonth_le d.year hmonth (Nat.lt_succ_of_le hmonth') (Nat.le_refl 13)
  rw [daysBeforeMonth_thirteen] at hmonths
  rw [daysBeforeYear_succ, toDays]
  omega

/-- A later date has a greater count. -/
theorem toDays_lt {d d' : Date} (h : d.IsDay) (h' : d'.IsDay) (hlt : d.Before d') :
    d.toDays < d'.toDays := by
  rcases hlt with hyear | ⟨hyear, hmonth | ⟨hmonth, hday⟩⟩
  · have hthis := (toDays_bounds h).2
    have hthat := (toDays_bounds h').1
    have hbetween := daysBeforeYear_le (Int.add_one_le_of_lt hyear)
    omega
  · have hmonths := daysBeforeMonth_le d.year h.1 hmonth (by have := h'.2.1; omega)
    have hend := h.2.2.2
    have hstart := h'.2.2.1
    rw [toDays, toDays, ← hyear]
    omega
  · rw [toDays, toDays, hyear, hmonth]
    omega

/-! ## The date of a count -/

/-- A number of days into a run of months lies in one of them. -/
theorem exists_monthAndDay : ∀ {lengths : List Nat} {month days : Nat}, days < lengths.sum →
    ∃ n length : Nat, lengths[n]? = some length
      ∧ (lengths.take n).sum ≤ days ∧ days < (lengths.take n).sum + length
      ∧ monthAndDay month lengths days = (month + n, days - (lengths.take n).sum + 1)
  | [], _, _, h => absurd h (Nat.not_lt_zero _)
  | length :: lengths, month, days, h => by
      rw [monthAndDay]
      by_cases hhere : days < length
      · exact ⟨0, length, rfl, Nat.zero_le days, by simpa using hhere, by simp [hhere]⟩
      · rw [List.sum_cons] at h
        obtain ⟨n, length', hlength, hstart, hend, hread⟩ :=
          @exists_monthAndDay lengths (month + 1) (days - length) (by omega)
        refine ⟨n + 1, length', hlength, ?_, ?_, ?_⟩
        · rw [List.take_succ_cons, List.sum_cons]
          omega
        · rw [List.take_succ_cons, List.sum_cons]
          omega
        · rw [if_neg hhere, hread, List.take_succ_cons, List.sum_cons, Nat.sub_sub,
            Nat.add_assoc month, Nat.add_comm 1]

/-- Whole cycles, centuries, runs and years, as many as there can be of each. -/
structure YearParts (cycles centuries runs years : Int) : Prop where
  centuries_le : 0 ≤ centuries ∧ centuries ≤ 3
  runs_le : 0 ≤ runs ∧ runs ≤ 24
  years_le : 0 ≤ years ∧ years ≤ 3

theorem YearParts.daysBeforeYear_eq {cycles centuries runs years : Int}
    (h : YearParts cycles centuries runs years) :
    daysBeforeYear (400 * cycles + 100 * centuries + 4 * runs + years + 1)
      = 146097 * cycles + 36524 * centuries + 1461 * runs + 365 * years := by
  obtain ⟨hcenturies, hruns, hyears⟩ := h
  rw [daysBeforeYear, Int.add_sub_cancel]
  omega

/-- The last year of a run is a leap year, but not at the end of a century that is not the last
of its cycle. -/
theorem YearParts.isLeap_iff {cycles centuries runs years : Int}
    (h : YearParts cycles centuries runs years) :
    isLeap (400 * cycles + 100 * centuries + 4 * runs + years + 1) = true
      ↔ years = 3 ∧ (runs ≠ 24 ∨ centuries = 3) := by
  obtain ⟨hcenturies, hruns, hyears⟩ := h
  rw [Calendar.isLeap_iff]
  omega

/-- The year of a count of days from 0001-01-01, and the days into it. -/
theorem exists_year (n : Int) :
    ∃ (year : Int) (days : Nat), n = daysBeforeYear year + days
      ∧ days < yearLength year
      ∧ ofDays (n - epoch)
        = ⟨year, (monthAndDay 1 (monthLengths year) days).1,
            (monthAndDay 1 (monthLengths year) days).2⟩ := by
  have hn : n - epoch + epoch = n := Int.sub_add_cancel n epoch
  obtain ⟨cycles, hcycles⟩ : ∃ cycles, cycles = n / 146097 := ⟨_, rfl⟩
  obtain ⟨inCycle, hinCycle⟩ : ∃ inCycle, inCycle = n % 146097 := ⟨_, rfl⟩
  obtain ⟨centuries, hcenturies⟩ : ∃ centuries, centuries = min (inCycle / 36524) 3 := ⟨_, rfl⟩
  obtain ⟨inCentury, hinCentury⟩ : ∃ inCentury, inCentury = inCycle - 36524 * centuries := ⟨_, rfl⟩
  obtain ⟨runs, hruns⟩ : ∃ runs, runs = inCentury / 1461 := ⟨_, rfl⟩
  obtain ⟨inRun, hinRun⟩ : ∃ inRun, inRun = inCentury % 1461 := ⟨_, rfl⟩
  obtain ⟨years, hyears⟩ : ∃ years, years = min (inRun / 365) 3 := ⟨_, rfl⟩
  -- A century is at most one day longer than its runs, and a run one day longer than its years.
  have hcentury : 0 ≤ inCentury ∧ inCentury ≤ 36524 ∧ (centuries < 3 → inCentury < 36524) := by
    omega
  have hrun : 0 ≤ inRun - 365 * years ∧ inRun - 365 * years ≤ 365
      ∧ (years < 3 → inRun - 365 * years < 365) := by
    omega
  have hparts : YearParts cycles centuries runs years :=
    ⟨by omega, by omega, by omega⟩
  refine ⟨400 * cycles + 100 * centuries + 4 * runs + years + 1, (inRun - 365 * years).toNat,
    ?_, ?_, ?_⟩
  · rw [hparts.daysBeforeYear_eq]
    omega
  · have hleap := hparts.isLeap_iff
    unfold yearLength
    split
    · omega
    · rename_i hcommon
      rw [hleap] at hcommon
      omega
  · subst hyears hinRun hruns hinCentury hcenturies hinCycle hcycles
    unfold ofDays
    rw [hn]

/-- The days before a month are those of the months in front of it. -/
theorem daysBeforeMonth_eq_sum (year : Int) (n : Nat) :
    daysBeforeMonth year (n + 1) = ((monthLengths year).take n).sum := by
  rw [daysBeforeMonth, Nat.add_sub_cancel, List.sum_eq_foldl]

theorem sum_monthLengths (year : Int) : (monthLengths year).sum = yearLength year := by
  unfold monthLengths yearLength
  cases isLeap year <;> rfl

theorem ofDays_spec (n : Int) : (ofDays n).IsDay ∧ (ofDays n).toDays = n := by
  obtain ⟨year, days, hn, hdays, hread⟩ := exists_year (n + epoch)
  rw [← sum_monthLengths] at hdays
  obtain ⟨m, length, hlength, hstart, hend, hmonth⟩ :=
    @exists_monthAndDay (monthLengths year) 1 days hdays
  rw [Int.add_sub_cancel, hmonth] at hread
  have hm : m < 12 := (List.getElem?_eq_some_iff.mp hlength).1
  rw [hread]
  constructor
  · refine ⟨by simp, by simp; omega, by simp, ?_⟩
    have hin : daysInMonth year (1 + m) = length := by
      rw [daysInMonth, if_neg (by omega), Nat.add_sub_cancel_left, List.getD_eq_getElem?_getD,
        hlength, Option.getD_some]
    show days - _ + 1 ≤ daysInMonth year (1 + m)
    rw [hin]
    omega
  · rw [toDays]
    dsimp only
    rw [Nat.add_comm 1 m, daysBeforeMonth_eq_sum]
    omega

end Date

end RecordQuery
