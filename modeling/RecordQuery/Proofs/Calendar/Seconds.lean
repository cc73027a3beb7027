/-
# Seconds since the epoch

A number of seconds stands for the moment that many seconds after 1970-01-01T00:00:00, or before
it.  This is said by the clock and the calendar alone: the second after a moment is the next one
of the minute, or else the first of the next minute, hour or day (`Moment.next`), and `n` seconds
later is `n` such steps (`Moment.IsAfter`).

Every step adds one to the count (`toUnix_next`), and the count of the moment that is found for a
number is this number (`toUnix_ofUnix`).  The numbers without a moment are those before the first
and after the last second of the calendar (`exists_ofUnix?_iff`).

A number may be given as a text of digits.  From nine digits on that is the same as the number.
-/
import RecordQuery.Calendar.Resolve
import RecordQuery.Proofs.Calendar.Days
import RecordQuery.Proofs.Text.Blank
import Mathlib.Logic.Function.Iterate

namespace RecordQuery

open Calendar

namespace Moment

/-! ## The clock -/

/-- A whole second of a day that there is, in whatever year. -/
structure IsSecond (m : Moment) : Prop where
  date : m.date.IsDay
  hour : m.hour ≤ 23
  minute : m.minute ≤ 59
  second : m.second ≤ 59
  whole : m.nanosecond = 0

/-- The second after. -/
def next (m : Moment) : Moment :=
  if m.second < 59 then { m with second := m.second + 1 }
  else if m.minute < 59 then { m with minute := m.minute + 1, second := 0 }
  else if m.hour < 23 then { m with hour := m.hour + 1, minute := 0, second := 0 }
  else { m with date := m.date.next, hour := 0, minute := 0, second := 0 }

theorem isSecond_next {m : Moment} (h : m.IsSecond) : m.next.IsSecond := by
  obtain ⟨hdate, hhour, hminute, hsecond, hwhole⟩ := h
  unfold next
  split
  · exact ⟨hdate, hhour, hminute, by assumption, hwhole⟩
  · split
    · exact ⟨hdate, hhour, by assumption, Nat.zero_le 59, hwhole⟩
    · split
      · exact ⟨hdate, by assumption, Nat.zero_le 59, Nat.zero_le 59, hwhole⟩
      · exact ⟨Date.isDay_next hdate, Nat.zero_le 23, Nat.zero_le 59, Nat.zero_le 59, hwhole⟩

/-- The second after is counted one second later. -/
theorem toUnix_next {m : Moment} (h : m.IsSecond) : m.next.toUnix = m.toUnix + 1 := by
  obtain ⟨hdate, hhour, hminute, hsecond, -⟩ := h
  have hdays := Date.toDays_next hdate
  unfold next
  split
  · simp only [toUnix, secondOfDay]
    omega
  · split
    · simp only [toUnix, secondOfDay]
      omega
    · split
      · simp only [toUnix, secondOfDay]
        omega
      · simp only [toUnix, secondOfDay, secondsPerDay, hdays]
        omega

theorem iterate_next {m : Moment} (h : m.IsSecond) (n : Nat) :
    (next^[n] m).IsSecond ∧ (next^[n] m).toUnix = m.toUnix + n := by
  induction n with
  | zero => exact ⟨h, (Int.add_zero _).symm⟩
  | succ n ih =>
      obtain ⟨hsecond, hcount⟩ := ih
      rw [Function.iterate_succ_apply', toUnix_next hsecond, hcount]
      exact ⟨isSecond_next hsecond, by omega⟩

/-- The second moment is so many seconds after the first; where the number is negative, the first
is that many seconds after the second. -/
def IsAfter (start : Moment) (seconds : Int) (m : Moment) : Prop :=
  if 0 ≤ seconds then next^[seconds.toNat] start = m else next^[(-seconds).toNat] m = start

/-- Midnight of 1970-01-01. -/
def unixEpoch : Moment :=
  midnight ⟨1970, 1, 1⟩

theorem isSecond_unixEpoch : unixEpoch.IsSecond :=
  ⟨by unfold Date.IsDay; decide, by decide, by decide, by decide, rfl⟩

theorem toUnix_unixEpoch : unixEpoch.toUnix = 0 := by
  decide

/-! ## Moments in order -/

/-- The time of day of the first moment is earlier. -/
def EarlierInDay (m m' : Moment) : Prop :=
  m.hour < m'.hour ∨ m.hour = m'.hour
    ∧ (m.minute < m'.minute ∨ m.minute = m'.minute ∧ m.second < m'.second)

/-- The first moment is earlier, by its date or else by its time of day. -/
def Before (m m' : Moment) : Prop :=
  m.date.Before m'.date ∨ m.date = m'.date ∧ m.EarlierInDay m'

theorem secondOfDay_bounds {m : Moment} (h : m.IsSecond) :
    0 ≤ m.secondOfDay ∧ m.secondOfDay < secondsPerDay := by
  obtain ⟨-, hhour, hminute, hsecond, -⟩ := h
  unfold secondOfDay secondsPerDay
  omega

/-- A later moment has a greater count. -/
theorem toUnix_lt {m m' : Moment} (h : m.IsSecond) (h' : m'.IsSecond) (hlt : m.Before m') :
    m.toUnix < m'.toUnix := by
  have htime := secondOfDay_bounds h
  have htime' := secondOfDay_bounds h'
  unfold secondsPerDay at htime htime'
  rw [toUnix, toUnix, secondsPerDay]
  rcases hlt with hdate | ⟨hdate, htimes⟩
  · have hdays := Date.toDays_lt h.date h'.date hdate
    omega
  · have hless : m.secondOfDay < m'.secondOfDay := by
      have hminute := h.minute
      have hsecond := h.second
      unfold EarlierInDay at htimes
      unfold secondOfDay
      omega
    rw [hdate]
    omega

theorem earlierInDay_trichotomy (m m' : Moment) :
    m.EarlierInDay m' ∨ (m.hour = m'.hour ∧ m.minute = m'.minute ∧ m.second = m'.second)
      ∨ m'.EarlierInDay m := by
  unfold EarlierInDay
  omega

theorem before_trichotomy {m m' : Moment} (h : m.IsSecond) (h' : m'.IsSecond) :
    m.Before m' ∨ m = m' ∨ m'.Before m := by
  rcases Date.before_trichotomy m.date m'.date with hdate | hdate | hdate
  · exact Or.inl (Or.inl hdate)
  · rcases earlierInDay_trichotomy m m' with htime | ⟨hhour, hminute, hsecond⟩ | htime
    · exact Or.inl (Or.inr ⟨hdate, htime⟩)
    · have hwhole : m.nanosecond = m'.nanosecond := h.whole.trans h'.whole.symm
      obtain ⟨date, hour, minute, second, nanosecond⟩ := m
      cases hdate
      cases hhour
      cases hminute
      cases hsecond
      cases hwhole
      exact Or.inr (Or.inl rfl)
    · exact Or.inr (Or.inr (Or.inr ⟨hdate.symm, htime⟩))
  · exact Or.inr (Or.inr (Or.inl hdate))

/-- The counts are ordered as the moments are. -/
theorem before_iff {m m' : Moment} (h : m.IsSecond) (h' : m'.IsSecond) :
    m.Before m' ↔ m.toUnix < m'.toUnix := by
  constructor
  · exact toUnix_lt h h'
  · intro hlt
    rcases before_trichotomy h h' with hbefore | rfl | hafter
    · exact hbefore
    · exact absurd hlt (Int.lt_irrefl _)
    · exact absurd (toUnix_lt h' h hafter) (Int.lt_asymm hlt)

theorem toUnix_inj {m m' : Moment} (h : m.IsSecond) (h' : m'.IsSecond)
    (heq : m.toUnix = m'.toUnix) : m = m' := by
  rcases before_trichotomy h h' with hbefore | rfl | hafter
  · have hlt := toUnix_lt h h' hbefore
    omega
  · rfl
  · have hlt := toUnix_lt h' h hafter
    omega

/-- A moment comes after another by the difference of their counts. -/
theorem isAfter_of_toUnix {start m : Moment} (hstart : start.IsSecond) (hm : m.IsSecond)
    {seconds : Int} (h : m.toUnix = start.toUnix + seconds) : start.IsAfter seconds m := by
  unfold IsAfter
  split
  · obtain ⟨hsecond, hcount⟩ := iterate_next hstart seconds.toNat
    exact toUnix_inj hsecond hm (by omega)
  · obtain ⟨hsecond, hcount⟩ := iterate_next hm (-seconds).toNat
    exact toUnix_inj hsecond hstart (by omega)

/-! ## The moment of a count -/

theorem isSecond_ofUnix (seconds : Int) : (ofUnix seconds).IsSecond := by
  have hinDay : (seconds % secondsPerDay).toNat < 86400 := by
    unfold secondsPerDay
    omega
  refine ⟨(Date.ofDays_spec _).1, ?_, ?_, ?_, rfl⟩
  · show (seconds % secondsPerDay).toNat / 3600 ≤ 23
    omega
  · show (seconds % secondsPerDay).toNat / 60 % 60 ≤ 59
    omega
  · show (seconds % secondsPerDay).toNat % 60 ≤ 59
    omega

theorem toUnix_ofUnix (seconds : Int) : (ofUnix seconds).toUnix = seconds := by
  have hdays : (ofUnix seconds).date.toDays = seconds / secondsPerDay := (Date.ofDays_spec _).2
  rw [toUnix, hdays]
  simp only [ofUnix, secondOfDay, secondsPerDay]
  omega

/-- The first second of the calendar. -/
def first : Moment :=
  midnight ⟨minYear, 1, 1⟩

/-- The last second of the calendar. -/
def last : Moment :=
  ⟨⟨maxYear, 12, 31⟩, 23, 59, 59, 0⟩

/-- The year of a moment is within the calendar when the moment is. -/
theorem year_mem_iff {m : Moment} (h : m.IsSecond) :
    (minYear ≤ m.date.year ∧ m.date.year ≤ maxYear)
      ↔ first.toUnix ≤ m.toUnix ∧ m.toUnix ≤ last.toUnix := by
  have hfirst : first.toUnix = secondsPerDay * (daysBeforeYear minYear - epoch) := by decide
  have hlast : last.toUnix = secondsPerDay * (daysBeforeYear (maxYear + 1) - epoch) - 1 := by
    decide
  have hyear := Date.toDays_bounds h.date
  have htime := secondOfDay_bounds h
  rw [hfirst, hlast, toUnix]
  unfold secondsPerDay at htime ⊢
  constructor
  · rintro ⟨hmin, hmax⟩
    have hfrom := daysBeforeYear_le hmin
    have hto := daysBeforeYear_le (Int.add_le_add_right hmax 1)
    omega
  · rintro ⟨hmin, hmax⟩
    constructor
    · by_contra hearly
      have hbefore := daysBeforeYear_le (Int.add_one_le_of_lt (Int.not_le.mp hearly))
      omega
    · by_contra hlate
      have hafter := daysBeforeYear_le (Int.add_one_le_of_lt (Int.not_le.mp hlate))
      omega

/-- A number of seconds has a moment when it lies between the first and the last second. -/
theorem ofUnix?_eq (seconds : Int) :
    ofUnix? seconds
      = if first.toUnix ≤ seconds ∧ seconds ≤ last.toUnix then some (ofUnix seconds) else none := by
  have hiff := year_mem_iff (isSecond_ofUnix seconds)
  rw [toUnix_ofUnix] at hiff
  unfold ofUnix?
  simp only [hiff]

end Moment

/-! ## Numbers and digits -/

section Resolve

variable {function : String} {n : Int64} {m : Moment}

/-- A number between the first and the last second is a moment, and any other is out of the
calendar. -/
theorem resolve_integer (function : String) (n : Int64) :
    resolve function (.integer n)
      = if Moment.first.toUnix ≤ n.toInt ∧ n.toInt ≤ Moment.last.toUnix then
          .ok (some (Moment.ofUnix n.toInt))
        else .error (.dateParse function (Value.integer n).display .outOfRange) := by
  rw [resolve, ofSeconds, Moment.ofUnix?_eq]
  by_cases hin : Moment.first.toUnix ≤ n.toInt ∧ n.toInt ≤ Moment.last.toUnix
  · rw [if_pos hin, if_pos hin]
    rfl
  · rw [if_neg hin, if_neg hin]
    rfl

theorem resolve_integer_eq_ok_iff :
    resolve function (.integer n) = .ok (some m)
      ↔ (Moment.first.toUnix ≤ n.toInt ∧ n.toInt ≤ Moment.last.toUnix)
        ∧ m = Moment.ofUnix n.toInt := by
  rw [resolve_integer]
  split
  · rename_i hin
    constructor
    · intro h
      cases h
      exact ⟨hin, rfl⟩
    · rintro ⟨-, rfl⟩
      rfl
  · rename_i hout
    constructor
    · intro h
      cases h
    · rintro ⟨hin, -⟩
      exact absurd hin hout

/-- The digits of a number from nine digits on are read as the number. -/
theorem resolve_digits (function : String) (h : 100000000 ≤ n.toInt) :
    resolve function (.text (Value.integer n).display) = resolve function (.integer n) := by
  obtain ⟨k, hk⟩ := Int.eq_ofNat_of_zero_le (by omega : 0 ≤ n.toInt)
  have hdigits : Decimal.ofInt n.toInt = Decimal.ofNat k := by
    rw [hk]
    rfl
  have hlength : 9 ≤ (Decimal.ofNat k).length := by
    by_contra hshort
    have hle : (Nat.toDigits 10 k).length ≤ 8 := Nat.lt_succ_iff.mp (Nat.not_le.mp hshort)
    rw [Nat.length_toDigits_le_iff (by decide) (by decide)] at hle
    omega
  have hall : ∀ c ∈ Decimal.ofNat k, c.isDigit = true := fun _ => Decimal.isDigit_of_mem_ofNat
  have htrim : Text.trim (Decimal.ofNat k) = Decimal.ofNat k :=
    Text.trim_of_not_blank fun c hc => Text.isBlank_of_isDigit (hall c hc)
  have hseconds : isSeconds (Decimal.ofNat k) = true := by
    rw [isSeconds, decide_eq_true hlength, List.all_eq_true.mpr hall, Bool.and_self]
  have hne : Decimal.ofNat k ≠ [] := Nat.toDigits_ne_nil
  have hread : Decimal.int64? (Decimal.ofNat k) = some n := by
    rw [← hdigits]
    exact Decimal.int64?_ofInt n
  simp only [resolve, Value.display, String.toList_ofList, hdigits, htrim, hne, hseconds, hread,
    if_false, if_true]

end Resolve

/-! ## Main result -/

/-- A number of seconds stands for the moment that is so many seconds after the epoch, or is
refused as out of the calendar.  The moments come in the order of the numbers, no two of them for
one, and the numbers that have one are those from a first to a last.  The digits of a number from
nine digits on stand for the same. -/
theorem resolve_seconds (function : String) :
    (∀ n : Int64,
      (∃ m : Moment, resolve function (.integer n) = .ok (some m)
          ∧ m.IsSecond ∧ Moment.unixEpoch.IsAfter n.toInt m)
        ∨ resolve function (.integer n)
          = .error (.dateParse function (Value.integer n).display .outOfRange))
      ∧ (∀ (n n' : Int64) (m m' : Moment), resolve function (.integer n) = .ok (some m) →
          resolve function (.integer n') = .ok (some m') →
            (m = m' ↔ n = n') ∧ (m.Before m' ↔ n.toInt < n'.toInt))
      ∧ (∀ n : Int64, (∃ m : Moment, resolve function (.integer n) = .ok (some m))
          ↔ -8334601228800 ≤ n.toInt ∧ n.toInt ≤ 8210266876799)
      ∧ ∀ n : Int64, 100000000 ≤ n.toInt →
          resolve function (.text (Value.integer n).display) = resolve function (.integer n) := by
  have hfirst : Moment.first.toUnix = -8334601228800 := by decide
  have hlast : Moment.last.toUnix = 8210266876799 := by decide
  refine ⟨?_, ?_, ?_, fun n => resolve_digits function⟩
  · intro n
    by_cases hin : Moment.first.toUnix ≤ n.toInt ∧ n.toInt ≤ Moment.last.toUnix
    · refine Or.inl ⟨_, resolve_integer_eq_ok_iff.mpr ⟨hin, rfl⟩, Moment.isSecond_ofUnix _, ?_⟩
      refine Moment.isAfter_of_toUnix Moment.isSecond_unixEpoch (Moment.isSecond_ofUnix _) ?_
      rw [Moment.toUnix_ofUnix, Moment.toUnix_unixEpoch, Int.zero_add]
    · rw [resolve_integer, if_neg hin]
      exact Or.inr rfl
  · intro n n' m m' hm hm'
    obtain ⟨-, rfl⟩ := resolve_integer_eq_ok_iff.mp hm
    obtain ⟨-, rfl⟩ := resolve_integer_eq_ok_iff.mp hm'
    rw [Moment.before_iff (Moment.isSecond_ofUnix _) (Moment.isSecond_ofUnix _),
      Moment.toUnix_ofUnix, Moment.toUnix_ofUnix]
    refine ⟨⟨fun heq => ?_, fun heq => by rw [heq]⟩, Iff.rfl⟩
    have hcount := congrArg Moment.toUnix heq
    rw [Moment.toUnix_ofUnix, Moment.toUnix_ofUnix] at hcount
    exact Int64.toInt_inj.mp hcount
  · intro n
    rw [← hfirst, ← hlast]
    constructor
    · rintro ⟨m, hm⟩
      exact (resolve_integer_eq_ok_iff.mp hm).1
    · exact fun hin => ⟨_, resolve_integer_eq_ok_iff.mpr ⟨hin, rfl⟩⟩

/-- The last second before the epoch, the leap day of the year 2000, and one second past the
calendar. -/
theorem resolve_seconds_leapDay :
    resolve "year" (.integer (-1)) = .ok (some ⟨⟨1969, 12, 31⟩, 23, 59, 59, 0⟩)
      ∧ resolve "year" (.integer 951868799) = .ok (some ⟨⟨2000, 2, 29⟩, 23, 59, 59, 0⟩)
      ∧ (Moment.Before ⟨⟨1969, 12, 31⟩, 23, 59, 59, 0⟩ ⟨⟨2000, 2, 29⟩, 23, 59, 59, 0⟩
          ↔ (-1 : Int64).toInt < (951868799 : Int64).toInt)
      ∧ resolve "year" (.text "951868799") = .ok (some ⟨⟨2000, 2, 29⟩, 23, 59, 59, 0⟩)
      ∧ ¬ ∃ m : Moment, resolve "year" (.integer 8210266876800) = .ok (some m) := by
  have hbefore : resolve "year" (.integer (-1)) = .ok (some ⟨⟨1969, 12, 31⟩, 23, 59, 59, 0⟩) := rfl
  have hleap : resolve "year" (.integer 951868799)
      = .ok (some ⟨⟨2000, 2, 29⟩, 23, 59, 59, 0⟩) := rfl
  obtain ⟨-, horder, hrange, hdigits⟩ := resolve_seconds "year"
  have htext := hdigits 951868799 (by decide)
  refine ⟨hbefore, hleap, (horder _ _ _ _ hbefore hleap).2, ?_, ?_⟩
  · rw [← hleap]
    exact htext
  · rw [hrange]
    decide

end RecordQuery
