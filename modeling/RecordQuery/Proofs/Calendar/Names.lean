/-
# Names of weekdays and months

A weekday is written in three letters, a month in three letters or in full.  Each name is read
back, whatever is behind it (`weekdayName_text`, `MonthStyle.read_text`).

A reader of the short name that finds the full one stops in the middle of the word
(`shortMonthName_long`):

    February
       ^ a letter, where a blank or a number has to be

Only in May the two names are one (`MonthStyle.text_may`).
-/
import RecordQuery.Proofs.Calendar.Remark
import Mathlib.Tactic.IntervalCases

namespace RecordQuery

/-! ## Writing -/

/-- The name of a day of the week, in three letters. -/
def Weekday.text : Weekday → List Char
  | .monday => "Mon".toList
  | .tuesday => "Tue".toList
  | .wednesday => "Wed".toList
  | .thursday => "Thu".toList
  | .friday => "Fri".toList
  | .saturday => "Sat".toList
  | .sunday => "Sun".toList

namespace Calendar

/-- The names of the months, from January. -/
def monthTexts : List String :=
  ["January", "February", "March", "April", "May", "June", "July", "August", "September",
   "October", "November", "December"]

/-- A month is written in three letters or in full. -/
inductive MonthStyle where
  | short
  | long
deriving DecidableEq

namespace MonthStyle

/-- The name of month `1 … 12`. -/
def text (style : MonthStyle) (month : Nat) : List Char :=
  let name := (monthTexts.getD (month - 1) "").toList
  match style with
  | short => name.take 3
  | long => name

/-- The item that stands for names of this style. -/
def item : MonthStyle → Item
  | short => .shortMonth
  | long => .longMonth

end MonthStyle

/-! ## Letters -/

/-- A letter is a character of dates, but no blank and no digit. -/
theorem isAlpha_spec {c : Char} (h : c.isAlpha = true) :
    isDateChar c = true ∧ Text.isBlank c = false ∧ c.isDigit = false := by
  have hle : c.toNat ≤ 122 := by
    rcases (Bool.or_eq_true _ _).mp h with hupper | hlower
    · have hbounds : c.val ≥ 'A'.val ∧ c.val ≤ 'Z'.val := of_decide_eq_true hupper
      exact Nat.le_trans hbounds.2 (by decide)
    · have hbounds := (Bool.and_eq_true _ _).mp hlower
      exact of_decide_eq_true hbounds.2
  have hletters : ∀ n ≤ 122, (Char.ofNat n).isAlpha = true →
      isDateChar (Char.ofNat n) = true ∧ Text.isBlank (Char.ofNat n) = false
        ∧ (Char.ofNat n).isDigit = false := by
    decide
  have hspec := hletters c.toNat hle
  rw [Char.ofNat_toNat] at hspec
  exact hspec h

theorem isAlpha_of_mem_weekday {w : Weekday} {c : Char} (h : c ∈ w.text) : c.isAlpha = true := by
  have hletters : w.text.all Char.isAlpha = true := by
    cases w <;> rfl
  exact List.all_eq_true.mp hletters c h

theorem isAlpha_of_mem_month {style : MonthStyle} {month : Nat} {c : Char}
    (h : c ∈ style.text month) : c.isAlpha = true := by
  have hnames : ∀ name ∈ monthTexts, name.toList.all Char.isAlpha = true := by decide
  have hlong : ∀ c ∈ (monthTexts.getD (month - 1) "").toList, c.isAlpha = true := by
    rw [List.getD_eq_getElem?_getD]
    cases hget : monthTexts[month - 1]? with
    | none => exact List.forall_mem_nil _
    | some name => exact List.all_eq_true.mp (hnames name (List.mem_of_getElem? hget))
  cases style with
  | short => exact hlong c (List.mem_of_mem_take h)
  | long => exact hlong c h

theorem not_mem_month {c : Char} (hc : ∀ name ∈ monthTexts, c ∉ name.toList)
    (style : MonthStyle) (month : Nat) : c ∉ style.text month := by
  have hlong : c ∉ (monthTexts.getD (month - 1) "").toList := by
    rw [List.getD_eq_getElem?_getD]
    cases hget : monthTexts[month - 1]? with
    | none => exact List.not_mem_nil
    | some name => exact hc name (List.mem_of_getElem? hget)
  cases style with
  | short => exact fun h => hlong (List.mem_of_mem_take h)
  | long => exact hlong

/-! ## Reading -/

theorem exists_weekday_cons (w : Weekday) :
    ∃ c cs, w.text = c :: cs ∧ c.isAlpha = true := by
  cases w <;> exact ⟨_, _, rfl, rfl⟩

theorem weekdayName_text (w : Weekday) (rest : List Char) :
    weekdayName (w.text ++ rest) = some (w, rest) := by
  cases w <;> rfl

theorem isPart_weekday (w : Weekday) : IsPart w.text := by
  refine .of_not_blank ?_ ?_
  · cases w <;> exact List.cons_ne_nil _ _
  · intro c hc
    obtain ⟨hdate, hblank, -⟩ := isAlpha_spec (isAlpha_of_mem_weekday hc)
    exact ⟨hdate, hblank⟩

section Month

variable {month : Nat} (hfirst : 1 ≤ month) (hlast : month ≤ 12)

include hfirst hlast

theorem exists_month_cons (style : MonthStyle) :
    ∃ c cs, style.text month = c :: cs ∧ c.isAlpha = true := by
  interval_cases month <;> cases style <;> exact ⟨_, _, rfl, rfl⟩

/-- A name is read back by the item of its style. -/
theorem MonthStyle.read_text (style : MonthStyle) (f : Fields) (rest : List Char) :
    style.item.read f (style.text month ++ rest) = some ({ f with month := some month }, rest) := by
  interval_cases month <;> cases style <;> rfl

theorem shortMonthName_short (rest : List Char) :
    shortMonthName (MonthStyle.short.text month ++ rest) = some (month, rest) := by
  interval_cases month <;> rfl

/-- The short name is read off the long one, and the next letter is left. -/
theorem shortMonthName_long (hmay : month ≠ 5) (rest : List Char) :
    ∃ c cs, c.isAlpha = true
      ∧ shortMonthName (MonthStyle.long.text month ++ rest) = some (month, c :: cs) := by
  interval_cases month <;> first | exact absurd rfl hmay | exact ⟨_, _, rfl, rfl⟩

/-- No weekday begins like a month. -/
theorem weekdayName_month (style : MonthStyle) (rest : List Char) :
    weekdayName (style.text month ++ rest) = none := by
  interval_cases month <;> cases style <;> rfl

theorem isPart_month (style : MonthStyle) : IsPart (style.text month) := by
  refine .of_not_blank ?_ ?_
  · obtain ⟨c, cs, hcons, -⟩ := exists_month_cons hfirst hlast style
    rw [hcons]
    exact List.cons_ne_nil _ _
  · intro c hc
    obtain ⟨hdate, hblank, -⟩ := isAlpha_spec (isAlpha_of_mem_month hc)
    exact ⟨hdate, hblank⟩

end Month

theorem MonthStyle.text_may (style : MonthStyle) : style.text 5 = MonthStyle.short.text 5 := by
  cases style <;> rfl

end Calendar

end RecordQuery
