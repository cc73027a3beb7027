/-
# Dates as they are written

A date or a moment can be written in several forms (`DateForm`, `MomentForm`), and with any
remark behind it each of them stands for what was written.

Three readers come one after the other: mail dates, timestamps, and the layouts in their order.
None of them has to be the one that reads a form, since the remark decides whether a mail date
or a timestamp is complete.  They only must not disagree:

    08 Feb 2023 19:00:46 +1100     a mail date, and the second layout
    08 Feb 2023 19:00:46 (AEDT)    the second layout only

`StandsFor` says this of a text: the first two readers make nothing else of it, and of the
layouts the first that fits gives what was written.  One lemma for each form shows it, with the
earlier layouts ruled out one by one.
-/
import RecordQuery.Proofs.Calendar.Zoned

namespace RecordQuery

open Calendar

namespace Calendar

/-! ## The forms -/

/-- The forms of a date. -/
inductive DateForm where
  /-- Such as `2023-02-08`. -/
  | hyphens
  /-- Such as `2023/02/08`. -/
  | slashes
  /-- Such as `Wed, 08 Feb 2023`. -/
  | weekday
  /-- Such as `08 Feb 2023` and `08 February 2023`. -/
  | words (style : MonthStyle)
  /-- Such as `Feb 08, 2023` and `February 08, 2023`. -/
  | monthFirst (style : MonthStyle)
  /-- Such as `20230208`. -/
  | compact

def DateForm.write (d : Date) : DateForm → List Char
  | hyphens => numericText '-' d
  | slashes => numericText '/' d
  | weekday => weekdayText d
  | words style => wordText style d
  | monthFirst style => commaText style d
  | compact => compactText d

/-- The forms of a date with the time of day. -/
inductive MomentForm where
  /-- Such as `Wed, 08 Feb 2023 19:00:46`. -/
  | weekday
  /-- Such as `08 Feb 2023 19:00:46` and `08 February 2023 19:00:46`. -/
  | words (style : MonthStyle)
  /-- Such as `2023-02-08T19:00:46`. -/
  | timestamp
  /-- Such as `2023-02-08 19:00:46`. -/
  | hyphens
  /-- Such as `2023/02/08 19:00:46`. -/
  | slashes
  /-- Such as `Wed Feb 08 19:00:46 2023`, `Wed Feb  8 19:00:46 2023` and
  `Wed Feb 8 19:00:46 2023`. -/
  | ctime (day : DayStyle)
  /-- Such as `20230208T190046` and `20230208T190046Z`. -/
  | compact (zulu : Bool)

def MomentForm.write (m : Moment) : MomentForm → List Char
  | weekday => weekdayText m.date ++ ' ' :: clockText m
  | words style => wordText style m.date ++ ' ' :: clockText m
  | timestamp => numericText '-' m.date ++ 'T' :: clockText m
  | hyphens => numericText '-' m.date ++ ' ' :: clockText m
  | slashes => numericText '/' m.date ++ ' ' :: clockText m
  | ctime day => ctimeText day m
  | compact zulu =>
      compactText m.date ++ 'T' :: (compactClock m ++ if zulu then ['Z'] else [])

/-! ## What a text stands for -/

/-- All readers agree on a text with a remark behind it. -/
structure StandsFor (cs : List Char) (m : Moment) : Prop where
  text : IsDateText cs
  mail : ∀ behind, Remark behind → ∀ m' ∈ Mail.moment? (cs ++ behind), m' = m
  timestamp : ∀ behind, Remark behind → ∀ m' ∈ Timestamp.moment? (cs ++ behind), m' = m
  layouts : (momentLayouts.findSome? (·.moment? cs)
    <|> (dateLayouts.findSome? (·.date? cs)).map Moment.midnight) = some m

theorem StandsFor.resolve_eq {cs : List Char} {m : Moment} (h : StandsFor cs m)
    (function : String) {behind : List Char} (hbehind : Remark behind) :
    resolve function (.text (String.ofList (cs ++ behind))) = .ok (some m) := by
  refine h.text.resolve_append hbehind ?_ function
  intro behind' hbehind'
  exact h.text.parseMoment?_append hbehind' (h.mail behind' hbehind')
    (h.timestamp behind' hbehind') h.layouts

/-- A reader that gives nothing makes nothing else of the text. -/
theorem eq_of_mem_none {o : Option Moment} (h : o = none) {m : Moment} : ∀ m' ∈ o, m' = m := by
  intro m' hm'
  rw [h] at hm'
  cases hm'

/-! ## Dates alone -/

section Date

variable {d : Date} (hd : d.FourDigits)

include hd

theorem standsFor_hyphens : StandsFor (numericText '-' d) (Moment.midnight d) where
  text := ⟨isPart_numericText (by decide) d, Or.inr ⟨'-', by simp [numericText], by decide⟩⟩
  mail behind _ := by
    rw [numericText, List.append_assoc]
    exact eq_of_mem_none (Mail.moment?_year hd _)
  timestamp behind hbehind := by
    rw [Timestamp.moment?_numericText hd]
    exact eq_of_mem_none (Timestamp.fromSeparator_eq_none hbehind)
  layouts := by
    have hmisses : Misses (numericText '-' d) ['-'] [] :=
      ⟨onlyMarks_numericText List.mem_cons_self d, List.forall_mem_nil _⟩
    exact layouts_of_date 0 hd hmisses rfl (by decide)
      (read_last (read_numericDate hd {} [] [] '-')) (Fields.ofDate_parts d)

theorem standsFor_slashes : StandsFor (numericText '/' d) (Moment.midnight d) where
  text := ⟨isPart_numericText (by decide) d, Or.inr ⟨'/', by simp [numericText], by decide⟩⟩
  mail behind _ := by
    rw [numericText, List.append_assoc]
    exact eq_of_mem_none (Mail.moment?_year hd _)
  timestamp behind _ := by
    rw [numericText, List.append_assoc, List.cons_append]
    exact eq_of_mem_none (Timestamp.moment?_year hd _ (by decide))
  layouts := by
    have hmisses : Misses (numericText '/' d) ['/'] [] :=
      ⟨onlyMarks_numericText List.mem_cons_self d, List.forall_mem_nil _⟩
    exact layouts_of_date 1 hd hmisses rfl (by decide)
      (read_last (read_numericDate hd {} [] [] '/')) (Fields.ofDate_parts d)

/-- Eight digits, one fewer than a number of seconds has at least. -/
theorem standsFor_compact : StandsFor (compactText d) (Moment.midnight d) where
  text := ⟨isPart_compactText d, Or.inl (by simp [compactText, length_padded])⟩
  mail behind _ := by
    rw [compactText, List.append_assoc]
    exact eq_of_mem_none (Mail.moment?_year hd _)
  timestamp behind _ := eq_of_mem_none (Timestamp.moment?_compactText hd behind)
  layouts := by
    have hmisses : Misses (compactText d) [] [wordDate .shortMonth, wordDate .longMonth] := by
      refine ⟨onlyMarks_compactText [] d, ?_⟩
      simp only [List.forall_mem_cons]
      exact ⟨read_wordDate_year [] _ hd (by decide), read_wordDate_year [] _ hd (by decide),
        List.forall_mem_nil _⟩
    have hread : Layout.read {} [.year, .month, .day] (compactText d) = some _ :=
      read_last (read_compactDate hd {} [] [])
    exact layouts_of_date 8 hd hmisses rfl (by decide) hread (Fields.ofDate_parts d)

theorem standsFor_shortWords : StandsFor (wordText .short d) (Moment.midnight d) where
  text := ⟨isPart_wordText hd .short, Or.inr ⟨' ', by simp [wordText], by decide⟩⟩
  mail behind hbehind := by
    rw [Mail.moment?_wordText, Mail.fromDay_wordText hd none behind hbehind.endsDigits]
    exact eq_of_mem_none (Mail.fromTime_eq_none hbehind)
  timestamp behind _ := eq_of_mem_none (Timestamp.moment?_wordText hd .short behind)
  layouts := by
    have hmisses : Misses (wordText .short d) [] [] :=
      ⟨onlyMarks_wordText [] .short d, List.forall_mem_nil _⟩
    exact layouts_of_date 3 hd hmisses rfl (by decide)
      (read_last (read_wordDate hd {} [] [] .short)) (Fields.ofDate_parts d)

/-- The layout with short names comes first and gets stuck in the long one. -/
theorem standsFor_longWords (hmay : d.month ≠ 5) :
    StandsFor (wordText .long d) (Moment.midnight d) where
  text := ⟨isPart_wordText hd .long, Or.inr ⟨' ', by simp [wordText], by decide⟩⟩
  mail behind _ := by
    rw [Mail.moment?_wordText]
    exact eq_of_mem_none (Mail.fromDay_wordText_long hd none behind hmay)
  timestamp behind _ := eq_of_mem_none (Timestamp.moment?_wordText hd .long behind)
  layouts := by
    have hmisses : Misses (wordText .long d) [] [wordDate .shortMonth] := by
      refine ⟨onlyMarks_wordText [] .long d, ?_⟩
      simp only [List.forall_mem_singleton]
      exact read_last_none (read_wordDate_long [] [] hd hmay)
    exact layouts_of_date 4 hd hmisses rfl (by decide)
      (read_last (read_wordDate hd {} [] [] .long)) (Fields.ofDate_parts d)

theorem standsFor_words (style : MonthStyle) :
    StandsFor (wordText style d) (Moment.midnight d) := by
  cases style with
  | short => exact standsFor_shortWords hd
  | long =>
      by_cases hmay : d.month = 5
      · rw [wordText_may hmay]
        exact standsFor_shortWords hd
      · exact standsFor_longWords hd hmay

theorem standsFor_weekday : StandsFor (weekdayText d) (Moment.midnight d) where
  text := ⟨isPart_weekdayText hd, Or.inr ⟨',', by simp [weekdayText], by decide⟩⟩
  mail behind hbehind := by
    rw [Mail.moment?_weekdayText, Mail.fromDay_wordText hd _ behind hbehind.endsDigits]
    exact eq_of_mem_none (Mail.fromTime_eq_none hbehind)
  timestamp behind _ := by
    rw [weekdayText, List.append_assoc]
    exact eq_of_mem_none (Timestamp.moment?_weekday _ _)
  layouts := by
    have hmisses : Misses (weekdayText d) ['T', ',']
        [[.year, .month, .day, .char 'T', .hour, .minute, .second]] := by
      refine ⟨onlyMarks_weekdayText (by decide) (by decide) d, ?_⟩
      simp only [List.forall_mem_singleton]
      exact read_number_weekday _ _ (by decide) _
    exact layouts_of_date 2 hd hmisses rfl (by decide) (read_last (read_weekdayDate hd {} [] []))
      (Fields.ofDate_weekday d)

theorem misses_commaText (style : MonthStyle) :
    Misses (commaText style d) [',']
      [afterWeekday (wordDate .shortMonth), wordDate .shortMonth, wordDate .longMonth] := by
  refine ⟨onlyMarks_commaText List.mem_cons_self style d, ?_⟩
  simp only [List.forall_mem_cons]
  exact ⟨read_weekday_month _ _ hd style, read_number_month _ _ hd (by decide) style,
    read_number_month _ _ hd (by decide) style, List.forall_mem_nil _⟩

theorem standsFor_monthFirst (style : MonthStyle) :
    StandsFor (commaText style d) (Moment.midnight d) where
  text := ⟨isPart_commaText hd style, Or.inr ⟨',', by simp [commaText], by decide⟩⟩
  mail behind _ := by
    rw [commaText, List.append_assoc]
    exact eq_of_mem_none (Mail.moment?_month hd _ style)
  timestamp behind _ := by
    rw [commaText, List.append_assoc]
    exact eq_of_mem_none (Timestamp.moment?_month hd style _)
  layouts := by
    have hmisses := misses_commaText hd
    have hread : ∀ style : MonthStyle, Layout.read {} (commaDate style.item) (commaText style d)
        = some { year := some d.year, month := some d.month, day := some d.day } :=
      fun style => read_last (read_commaDate hd {} [] [] style)
    cases style with
    | short =>
        exact layouts_of_date 5 hd (hmisses .short) rfl (by decide) (hread .short)
          (Fields.ofDate_parts d)
    | long =>
        by_cases hmay : d.month = 5
        · rw [commaText_may hmay]
          exact layouts_of_date 5 hd (hmisses .short) rfl (by decide) (hread .short)
            (Fields.ofDate_parts d)
        · have hlong : Misses (commaText .long d) [',']
              [commaDate .shortMonth, afterWeekday (wordDate .shortMonth), wordDate .shortMonth,
                wordDate .longMonth] := by
            refine ⟨(hmisses .long).marks, ?_⟩
            rw [List.forall_mem_cons]
            exact ⟨read_shortMonth_long _ _ hd hmay (by decide), (hmisses .long).misfits⟩
          exact layouts_of_date 6 hd hlong rfl (by decide) (hread .long) (Fields.ofDate_parts d)

end Date

/-! ## Dates with a time -/

/-- The time of day is no part of a number of seconds, because of its colons. -/
theorem isDateText_timed {cs : List Char} (hcs : IsPart cs) {mark : Char}
    (hmark : mark ∈ ['T', ' ']) (m : Moment) : IsDateText (cs ++ mark :: clockText m) where
  toIsPart := by
    simp only [List.mem_cons, List.not_mem_nil, or_false] at hmark
    rcases hmark with rfl | rfl
    · exact hcs.join ['T'] rfl (isPart_clockText m)
    · exact hcs.join [' '] rfl (isPart_clockText m)
  not_digits := Or.inr ⟨':', by simp [clockText], by decide⟩

theorem onlyMarks_timedWords (style : MonthStyle) (m : Moment) :
    OnlyMarks [':'] (wordText style m.date ++ ' ' :: clockText m) :=
  (onlyMarks_wordText _ style m.date).append
    (OnlyMarks.space (onlyMarks_clockText List.mem_cons_self m))

section Moment

variable {m : Moment} (hm : m.IsSecond) (hd : m.date.FourDigits)

include hd

/-- No layout with the month in words reads a text that begins with the year. -/
theorem misses_timedNumeric {present : List Char} {c mark : Char} (hc : c ∈ present)
    (hmark : OnlyMarks present (mark :: clockText m)) :
    Misses (numericText c m.date ++ mark :: clockText m) present
      [wordDate .shortMonth ++ [.space] ++ clock, wordDate .longMonth ++ [.space] ++ clock] := by
  refine ⟨(onlyMarks_numericText hc _).append hmark, ?_⟩
  simp only [List.forall_mem_cons]
  rw [numericText, List.append_assoc]
  exact ⟨read_wordDate_year (.space :: clock) _ hd (by decide),
    read_wordDate_year (.space :: clock) _ hd (by decide), List.forall_mem_nil _⟩

include hm

/-- The first layout of all reads the text, whatever marks it has. -/
theorem standsFor_timedWeekday : StandsFor (weekdayText m.date ++ ' ' :: clockText m) m where
  text := isDateText_timed (isPart_weekdayText hd) (by decide) m
  mail behind _ := by
    rw [List.append_assoc, List.cons_append, Mail.moment?_weekdayText,
      Mail.fromDay_wordText hd _ _ (endsDigits_cons (by decide) _)]
    intro m' hm'
    exact Mail.eq_of_mem_fromTime hm hd (Fields.ofDate_weekday m.date) rfl hm'
  timestamp behind _ := by
    rw [weekdayText, List.append_assoc, List.append_assoc]
    exact eq_of_mem_none (Timestamp.moment?_weekday _ _)
  layouts := by
    have hmisses : Misses (weekdayText m.date ++ ' ' :: clockText m) layoutMarks [] :=
      ⟨fun _ _ hmark => hmark, List.forall_mem_nil _⟩
    have hread := (read_weekdayDate hd {} (' ' :: clockText m) (.space :: clock)).trans
      (read_last (read_spaceClock hm _ [] []))
    exact layouts_of_moment 0 hm hd hmisses rfl (by decide) hread
      ((Fields.ofDate_weekday m.date).timed rfl)

theorem standsFor_shortTimedWords : StandsFor (wordText .short m.date ++ ' ' :: clockText m) m where
  text := isDateText_timed (isPart_wordText hd .short) (by decide) m
  mail behind _ := by
    rw [List.append_assoc, List.cons_append, Mail.moment?_wordText,
      Mail.fromDay_wordText hd _ _ (endsDigits_cons (by decide) _)]
    intro m' hm'
    exact Mail.eq_of_mem_fromTime hm hd (Fields.ofDate_parts m.date) rfl hm'
  timestamp behind _ := by
    rw [List.append_assoc]
    exact eq_of_mem_none (Timestamp.moment?_wordText hd .short _)
  layouts := by
    have hmisses : Misses (wordText .short m.date ++ ' ' :: clockText m) [':'] [] :=
      ⟨onlyMarks_timedWords .short m, List.forall_mem_nil _⟩
    have hread := (read_wordDate hd {} (' ' :: clockText m) (.space :: clock) .short).trans
      (read_last (read_spaceClock hm _ [] []))
    exact layouts_of_moment 1 hm hd hmisses rfl (by decide) hread
      ((Fields.ofDate_parts m.date).timed rfl)

theorem standsFor_longTimedWords (hmay : m.date.month ≠ 5) :
    StandsFor (wordText .long m.date ++ ' ' :: clockText m) m where
  text := isDateText_timed (isPart_wordText hd .long) (by decide) m
  mail behind _ := by
    rw [List.append_assoc, Mail.moment?_wordText]
    exact eq_of_mem_none (Mail.fromDay_wordText_long hd none _ hmay)
  timestamp behind _ := by
    rw [List.append_assoc]
    exact eq_of_mem_none (Timestamp.moment?_wordText hd .long _)
  layouts := by
    have hmisses : Misses (wordText .long m.date ++ ' ' :: clockText m) [':']
        [wordDate .shortMonth ++ [.space] ++ clock] := by
      refine ⟨onlyMarks_timedWords .long m, ?_⟩
      simp only [List.forall_mem_singleton]
      exact read_wordDate_long (.space :: clock) _ hd hmay
    have hread := (read_wordDate hd {} (' ' :: clockText m) (.space :: clock) .long).trans
      (read_last (read_spaceClock hm _ [] []))
    exact layouts_of_moment 2 hm hd hmisses rfl (by decide) hread
      ((Fields.ofDate_parts m.date).timed rfl)

theorem standsFor_timedWords (style : MonthStyle) :
    StandsFor (wordText style m.date ++ ' ' :: clockText m) m := by
  cases style with
  | short => exact standsFor_shortTimedWords hm hd
  | long =>
      by_cases hmay : m.date.month = 5
      · rw [wordText_may hmay]
        exact standsFor_shortTimedWords hm hd
      · exact standsFor_longTimedWords hm hd hmay

/-- Date and time have a `T` between them, or a blank. -/
theorem standsFor_timedHyphens {mark : Char} (hmark : mark ∈ ['T', ' ']) :
    StandsFor (numericText '-' m.date ++ mark :: clockText m) m where
  text := isDateText_timed (isPart_numericText (by decide) _) hmark m
  mail behind _ := by
    rw [numericText, List.append_assoc, List.append_assoc]
    exact eq_of_mem_none (Mail.moment?_year hd _)
  timestamp behind hbehind := by
    rw [List.append_assoc, List.cons_append, Timestamp.moment?_numericText hd]
    intro m' hm'
    exact Timestamp.eq_of_mem_fromSeparator hm hd (Fields.ofDate_parts m.date) hmark hbehind hm'
  layouts := by
    simp only [List.mem_cons, List.not_mem_nil, or_false] at hmark
    rcases hmark with rfl | rfl
    · have hmisses : Misses (numericText '-' m.date ++ 'T' :: clockText m) ['-', 'T', ':'] _ :=
        misses_timedNumeric hd (by decide) (.mark (by decide) (onlyMarks_clockText (by decide) m))
      have hread := (read_numericDate hd {} ('T' :: clockText m) (.char 'T' :: clock) '-').trans
        (read_last (read_charClock hm _ [] [] 'T'))
      exact layouts_of_moment 3 hm hd hmisses rfl (by decide) hread
        ((Fields.ofDate_parts m.date).timed rfl)
    · have hmisses : Misses (numericText '-' m.date ++ ' ' :: clockText m) ['-', ':'] _ :=
        misses_timedNumeric hd (by decide) (.space (onlyMarks_clockText (by decide) m))
      have hread := (read_numericDate hd {} (' ' :: clockText m) (.space :: clock) '-').trans
        (read_last (read_spaceClock hm _ [] []))
      exact layouts_of_moment 4 hm hd hmisses rfl (by decide) hread
        ((Fields.ofDate_parts m.date).timed rfl)

theorem standsFor_timedSlashes : StandsFor (numericText '/' m.date ++ ' ' :: clockText m) m where
  text := isDateText_timed (isPart_numericText (by decide) _) (by decide) m
  mail behind _ := by
    rw [numericText, List.append_assoc, List.append_assoc]
    exact eq_of_mem_none (Mail.moment?_year hd _)
  timestamp behind _ := by
    rw [numericText, List.append_assoc, List.append_assoc, List.cons_append]
    exact eq_of_mem_none (Timestamp.moment?_year hd _ (by decide))
  layouts := by
    have hmisses : Misses (numericText '/' m.date ++ ' ' :: clockText m) ['/', ':'] _ :=
      misses_timedNumeric hd (by decide) (.space (onlyMarks_clockText (by decide) m))
    have hread := (read_numericDate hd {} (' ' :: clockText m) (.space :: clock) '/').trans
      (read_last (read_spaceClock hm _ [] []))
    exact layouts_of_moment 5 hm hd hmisses rfl (by decide) hread
      ((Fields.ofDate_parts m.date).timed rfl)

/-- A weekday and a blank begin no mail date, and the year stands at the end. -/
theorem standsFor_ctime (style : DayStyle) : StandsFor (ctimeText style m) m where
  text := ⟨isPart_ctimeText hd style, Or.inr ⟨' ', by simp [ctimeText], by decide⟩⟩
  mail behind _ := by
    rw [ctimeText, List.append_assoc, List.cons_append]
    exact eq_of_mem_none (Mail.moment?_weekday_space _ _)
  timestamp behind _ := by
    rw [ctimeText, List.append_assoc]
    exact eq_of_mem_none (Timestamp.moment?_weekday _ _)
  layouts := by
    have hmisses : Misses (ctimeText style m) ['T', ':']
        [wordDate .shortMonth ++ [.space] ++ clock, wordDate .longMonth ++ [.space] ++ clock] := by
      refine ⟨onlyMarks_ctimeText (by decide) (by decide) style m, ?_⟩
      simp only [List.forall_mem_cons]
      exact ⟨read_number_weekday _ _ (by decide) _, read_number_weekday _ _ (by decide) _,
        List.forall_mem_nil _⟩
    exact layouts_of_moment 6 hm hd hmisses rfl (by decide) (read_ctime hm hd style)
      ((Fields.ofDate_weekday m.date).timed rfl)

/-- Date and time in digits alone; the letter of the zone at zero may follow. -/
theorem standsFor_timedCompact {zulu : List Char} (hzulu : zulu ∈ [[], ['Z']]) :
    StandsFor (compactText m.date ++ 'T' :: (compactClock m ++ zulu)) m where
  text := by
    have hclock : IsPart (compactClock m ++ zulu) := by
      simp only [List.mem_cons, List.not_mem_nil, or_false] at hzulu
      rcases hzulu with rfl | rfl
      · rw [List.append_nil]
        exact isPart_compactClock m
      · have hletter : IsPart ['Z'] :=
          .of_not_blank (List.cons_ne_nil _ _) (List.forall_mem_singleton.mpr ⟨rfl, rfl⟩)
        exact (isPart_compactClock m).append hletter
    exact ⟨(isPart_compactText m.date).join ['T'] rfl hclock,
      Or.inr ⟨'T', by simp, by decide⟩⟩
  mail behind _ := by
    rw [compactText, List.append_assoc, List.append_assoc]
    exact eq_of_mem_none (Mail.moment?_year hd _)
  timestamp behind _ := by
    rw [List.append_assoc]
    exact eq_of_mem_none (Timestamp.moment?_compactText hd _)
  layouts := by
    have hmisses : Misses (compactText m.date ++ 'T' :: (compactClock m ++ zulu)) ['T'] [] := by
      have hrest : OnlyMarks ['T'] zulu := by
        simp only [List.mem_cons, List.not_mem_nil, or_false] at hzulu
        rcases hzulu with rfl | rfl
        · exact OnlyMarks.nil _
        · exact OnlyMarks.other (by decide) (OnlyMarks.nil _)
      exact ⟨(onlyMarks_compactText _ _).append
        (.mark List.mem_cons_self ((onlyMarks_compactClock _ m).append hrest)),
        List.forall_mem_nil _⟩
    have hread : Layout.read {} [.year, .month, .day, .char 'T', .hour, .minute, .second]
        (compactText m.date ++ 'T' :: (compactClock m ++ zulu)) = some _ :=
      (read_compactDate hd {} _ _).trans (read_compactClock hm _ [] zulu 'T')
    exact layouts_of_moment 7 hm hd hmisses rfl (by decide) hread
      ((Fields.ofDate_parts m.date).timed rfl)

end Moment

/-! ## All the forms -/

theorem standsFor_dateForm (form : DateForm) {d : Date} (hd : d.FourDigits) :
    StandsFor (form.write d) (Moment.midnight d) := by
  cases form with
  | hyphens => exact standsFor_hyphens hd
  | slashes => exact standsFor_slashes hd
  | weekday => exact standsFor_weekday hd
  | words style => exact standsFor_words hd style
  | monthFirst style => exact standsFor_monthFirst hd style
  | compact => exact standsFor_compact hd

theorem standsFor_momentForm (form : MomentForm) {m : Moment} (hm : m.IsSecond)
    (hd : m.date.FourDigits) : StandsFor (form.write m) m := by
  cases form with
  | weekday => exact standsFor_timedWeekday hm hd
  | words style => exact standsFor_timedWords hm hd style
  | timestamp => exact standsFor_timedHyphens hm hd (by decide)
  | hyphens => exact standsFor_timedHyphens hm hd (by decide)
  | slashes => exact standsFor_timedSlashes hm hd
  | ctime day => exact standsFor_ctime hm hd day
  | compact zulu =>
      refine standsFor_timedCompact hm hd ?_
      cases zulu <;> decide

end Calendar

/-! ## Main result -/

/-- A moment from the years 1000 to 9999, in any of its forms and with any remark behind it,
stands for itself as it is written, whatever zone the remark may name; and a date stands for its
midnight. -/
theorem resolve_written (function : String) {behind : List Char} (hbehind : Remark behind) :
    (∀ (form : MomentForm) (m : Moment), m.IsSecond → 1000 ≤ m.date.year → m.date.year ≤ 9999 →
        resolve function (.text (String.ofList (form.write m ++ behind))) = .ok (some m))
      ∧ ∀ (form : DateForm) (d : Date), d.IsDay → 1000 ≤ d.year → d.year ≤ 9999 →
          resolve function (.text (String.ofList (form.write d ++ behind)))
            = .ok (some (.midnight d)) := by
  constructor
  · intro form m hm hfirst hlast
    exact (standsFor_momentForm form hm ⟨hm.date, hfirst, hlast⟩).resolve_eq function hbehind
  · intro form d hd hfirst hlast
    exact (standsFor_dateForm form ⟨hd, hfirst, hlast⟩).resolve_eq function hbehind

/-- The same second as a mail date with its zone, in the style of a mailbox, and in digits; and
its day in words.  The zone does not count. -/
theorem resolve_written_february :
    Remark " +1100 (AEDT)".toList
      ∧ resolve "year" (.text "Wed, 08 Feb 2023 19:00:46 +1100 (AEDT)")
        = .ok (some ⟨⟨2023, 2, 8⟩, 19, 0, 46, 0⟩)
      ∧ resolve "year" (.text "Wed Feb  8 19:00:46 2023 +1100 (AEDT)")
        = .ok (some ⟨⟨2023, 2, 8⟩, 19, 0, 46, 0⟩)
      ∧ resolve "year" (.text "20230208T190046Z +1100 (AEDT)")
        = .ok (some ⟨⟨2023, 2, 8⟩, 19, 0, 46, 0⟩)
      ∧ resolve "year" (.text "February 08, 2023 +1100 (AEDT)")
        = .ok (some (.midnight ⟨2023, 2, 8⟩)) := by
  have hplus : EndsDate '+' := ⟨by decide, by decide, by decide, by decide⟩
  have hspace : ∀ b ∈ [' '], Text.isBlank b = true := List.forall_mem_singleton.mpr rfl
  have hbehind : Remark " +1100 (AEDT)".toList := .cut "1100 (AEDT)".toList hspace hplus
  have hday : (Date.mk 2023 2 8).IsDay := by
    unfold Date.IsDay
    decide
  have hsecond : (Moment.mk ⟨2023, 2, 8⟩ 19 0 46 0).IsSecond :=
    ⟨hday, by decide, by decide, by decide, rfl⟩
  obtain ⟨hmoments, hdates⟩ := resolve_written "year" hbehind
  have hmail : String.ofList (MomentForm.weekday.write ⟨⟨2023, 2, 8⟩, 19, 0, 46, 0⟩
      ++ " +1100 (AEDT)".toList) = "Wed, 08 Feb 2023 19:00:46 +1100 (AEDT)" := by decide
  have hctime : String.ofList ((MomentForm.ctime .blank).write ⟨⟨2023, 2, 8⟩, 19, 0, 46, 0⟩
      ++ " +1100 (AEDT)".toList) = "Wed Feb  8 19:00:46 2023 +1100 (AEDT)" := by decide
  have hcompact : String.ofList ((MomentForm.compact true).write ⟨⟨2023, 2, 8⟩, 19, 0, 46, 0⟩
      ++ " +1100 (AEDT)".toList) = "20230208T190046Z +1100 (AEDT)" := by decide
  have hwords : String.ofList ((DateForm.monthFirst .long).write ⟨2023, 2, 8⟩
      ++ " +1100 (AEDT)".toList) = "February 08, 2023 +1100 (AEDT)" := by decide
  rw [← hmail, ← hctime, ← hcompact, ← hwords]
  exact ⟨hbehind, hmoments .weekday _ hsecond (by decide) (by decide),
    hmoments (.ctime .blank) _ hsecond (by decide) (by decide),
    hmoments (.compact true) _ hsecond (by decide) (by decide),
    hdates (.monthFirst .long) _ hday (by decide) (by decide)⟩

end RecordQuery
