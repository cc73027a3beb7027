/-
# Numbers of a fixed width

`padded width n` is a number in exactly `width` digits, with zeros in front.  A reader of
numbers takes as many digits as it may, so what it makes of such a text depends on what
stands behind it:

    width = most      the number, whatever is behind
    width < most      the number, if what is behind does not start with a digit
    width > most      the digits in front; the others are left (`padded_add`)

and it gives nothing when there are fewer digits than it asks for.
-/
import RecordQuery.Calendar.Layout
import RecordQuery.Proofs.Text.Blank
import Mathlib.Algebra.Group.Nat.Defs

namespace RecordQuery.Calendar

open Text (trimStart isBlank)

/-! ## Writing -/

/-- The last `width` digits of a number, zeros in front where it has fewer. -/
def padded : Nat → Nat → List Char
  | 0, _ => []
  | width + 1, n => padded width (n / 10) ++ [Nat.digitChar (n % 10)]

theorem length_padded (width n : Nat) : (padded width n).length = width := by
  induction width generalizing n with
  | zero => rfl
  | succ width ih => rw [padded, List.length_append, ih, List.length_singleton]

theorem isDigit_of_mem_padded {width n : Nat} {c : Char} (h : c ∈ padded width n) :
    c.isDigit = true := by
  induction width generalizing n with
  | zero => exact absurd h List.not_mem_nil
  | succ width ih =>
      rw [padded, List.mem_append, List.mem_singleton] at h
      rcases h with h | rfl
      · exact ih h
      · rw [Nat.isDigit_digitChar, decide_eq_true_eq]
        exact Nat.mod_lt n (by decide)

/-- The digits in front are those of the number without the last ones. -/
theorem padded_add (front width n : Nat) :
    padded (front + width) n = padded front (n / 10 ^ width) ++ padded width n := by
  induction width generalizing n with
  | zero => rw [Nat.add_zero, Nat.pow_zero, Nat.div_one, padded, List.append_nil]
  | succ width ih =>
      rw [← Nat.add_assoc, padded, ih, padded, Nat.div_div_eq_div_mul, Nat.pow_succ,
        Nat.mul_comm 10, List.append_assoc]

theorem exists_padded_cons (width n : Nat) :
    ∃ c cs, padded (width + 1) n = c :: cs ∧ c.isDigit = true := by
  cases hdigits : padded (width + 1) n with
  | nil =>
      have hlength := length_padded (width + 1) n
      rw [hdigits] at hlength
      cases hlength
  | cons c cs =>
      have hc : c ∈ padded (width + 1) n := by
        rw [hdigits]
        exact List.mem_cons_self
      exact ⟨c, cs, rfl, isDigit_of_mem_padded hc⟩

/-- The digits stand for the number, if it has no more of them. -/
theorem ofDigitChars_padded {width n : Nat} (h : n < 10 ^ width) :
    Nat.ofDigitChars 10 (padded width n) 0 = n := by
  induction width generalizing n with
  | zero =>
      rw [Nat.pow_zero] at h
      rw [padded, Nat.ofDigitChars_nil]
      omega
  | succ width ih =>
      have hfront : n / 10 < 10 ^ width := by
        rw [Nat.pow_succ] at h
        exact Nat.div_lt_of_lt_mul (by rwa [Nat.mul_comm] at h)
      have hlast : (Nat.digitChar (n % 10)).toNat - '0'.toNat = n % 10 :=
        Nat.toNat_digitChar_sub_48_of_lt_ten (Nat.mod_lt n (by decide))
      rw [padded, Nat.ofDigitChars_append, ih hfront, Nat.ofDigitChars_cons,
        Nat.ofDigitChars_nil, hlast, Nat.div_add_mod]

/-! ## Reading -/

/-- The text does not go on with a digit. -/
def EndsDigits (rest : List Char) : Prop :=
  ∀ c s, rest = c :: s → c.isDigit = false

theorem endsDigits_cons {c : Char} (h : c.isDigit = false) (rest : List Char) :
    EndsDigits (c :: rest) := by
  intro d s hcons
  cases hcons
  exact h

theorem EndsDigits.takeWhile_take {rest : List Char} (h : EndsDigits rest) (n : Nat) :
    (rest.take n).takeWhile Char.isDigit = [] := by
  cases hrest : rest.take n with
  | nil => rfl
  | cons c s =>
      have hc : c.isDigit = false := by
        cases rest with
        | nil =>
            rw [List.take_nil] at hrest
            cases hrest
        | cons d t =>
            cases n with
            | zero => cases hrest
            | succ n =>
                cases hrest
                exact h c t rfl
      rw [List.takeWhile_cons_of_neg]
      rw [hc]
      exact Bool.false_ne_true

theorem EndsDigits.takeWhile {rest : List Char} (h : EndsDigits rest) :
    rest.takeWhile Char.isDigit = [] := by
  have hall := h.takeWhile_take rest.length
  rwa [List.take_length] at hall

theorem EndsDigits.dropWhile {rest : List Char} (h : EndsDigits rest) :
    rest.dropWhile Char.isDigit = rest := by
  have happend := List.takeWhile_append_dropWhile (p := Char.isDigit) (l := rest)
  rwa [h.takeWhile, List.nil_append] at happend

/-- A reader of at most `width` digits takes those of the number and leaves what is behind. -/
def Bounded (width most : Nat) (rest : List Char) : Prop :=
  width = most ∨ (width < most ∧ EndsDigits rest)

theorem takeWhile_take_padded {width most : Nat} {rest : List Char}
    (h : Bounded width most rest) (n : Nat) :
    ((padded width n ++ rest).take most).takeWhile Char.isDigit = padded width n := by
  have hdigits : ∀ c ∈ padded width n, c.isDigit = true := fun _ => isDigit_of_mem_padded
  rcases h with rfl | ⟨hlt, hrest⟩
  · rw [List.take_left' (length_padded width n), List.takeWhile_eq_self_iff]
    exact hdigits
  · rw [List.take_append, length_padded, List.take_of_length_le, List.takeWhile_append_of_pos
      hdigits, hrest.takeWhile_take, List.append_nil]
    rw [length_padded]
    exact Nat.le_of_lt hlt

/-- Reading a number of fixed width gives the number, unless more digits are asked for. -/
theorem number_padded {least most width n : Nat} {rest : List Char} (hn : n < 10 ^ width)
    (h : Bounded width most rest) :
    number least most (padded width n ++ rest)
      = if least ≤ width then some (n, rest) else none := by
  rw [number, takeWhile_take_padded h, List.drop_left' rfl, digitsOf, length_padded,
    ofDigitChars_padded hn]

/-- A number in as many digits as a reader may take is read whatever is behind it. -/
theorem number_padded_self {least width n : Nat} (hn : n < 10 ^ width) (hleast : least ≤ width)
    (rest : List Char) : number least width (padded width n ++ rest) = some (n, rest) := by
  rw [number_padded hn (Or.inl rfl), if_pos hleast]

/-- Nothing is read where no digit stands. -/
theorem number_eq_none {least most : Nat} (hleast : 0 < least) (hmost : 0 < most)
    {rest : List Char} (h : EndsDigits rest) : number least most rest = none := by
  have hread : number least most (padded 0 0 ++ rest)
      = if least ≤ 0 then some (0, rest) else none :=
    number_padded (by decide) (Or.inr ⟨hmost, h⟩)
  rwa [if_neg (Nat.not_le.mpr hleast)] at hread

/-- A number without a limit is read up to the last digit. -/
theorem longNumber_padded {least width n : Nat} {rest : List Char} (hn : n < 10 ^ width)
    (hleast : least ≤ width) (h : EndsDigits rest) :
    longNumber least (padded width n ++ rest) = some (n, rest) := by
  have hdigits : ∀ c ∈ padded width n, c.isDigit = true := fun _ => isDigit_of_mem_padded
  rw [longNumber, List.takeWhile_append_of_pos hdigits, List.dropWhile_append_of_pos hdigits,
    h.takeWhile, h.dropWhile, List.append_nil, digitsOf, length_padded, if_pos hleast,
    ofDigitChars_padded hn]

theorem trimStart_padded (width n : Nat) (rest : List Char) :
    trimStart (padded (width + 1) n ++ rest) = padded (width + 1) n ++ rest := by
  obtain ⟨c, cs, hcons, hc⟩ := exists_padded_cons width n
  rw [hcons, List.cons_append, Text.trimStart_cons (Text.isBlank_of_isDigit hc)]

/-- Two digits are read where one or two are asked for. -/
theorem shortNumber_padded {n : Nat} (hn : n < 100) (rest : List Char) :
    shortNumber (padded 2 n ++ rest) = some (n, rest) := by
  rw [shortNumber, trimStart_padded, number_padded_self hn (by decide)]

/-- There is no number where neither a digit nor a blank stands. -/
theorem shortNumber_cons {c : Char} (hblank : isBlank c = false) (hdigit : c.isDigit = false)
    (rest : List Char) : shortNumber (c :: rest) = none := by
  rw [shortNumber, Text.trimStart_cons hblank]
  exact number_eq_none (by decide) (by decide) (endsDigits_cons hdigit rest)

/-- A year of up to four digits. -/
theorem yearNumber_padded {width n : Nat} {rest : List Char} (hn : n < 10 ^ (width + 1))
    (h : Bounded (width + 1) 4 rest) :
    yearNumber (padded (width + 1) n ++ rest) = some ((n : Int), rest) := by
  have hread : number 1 4 (padded (width + 1) n ++ rest) = some (n, rest) := by
    rw [number_padded hn h, if_pos (Nat.succ_le_succ (Nat.zero_le width))]
  obtain ⟨c, cs, hcons, hc⟩ := exists_padded_cons width n
  rw [yearNumber, trimStart_padded]
  rw [hcons, List.cons_append] at hread ⊢
  split
  · rename_i hminus
    rw [(List.cons.inj hminus).1] at hc
    exact absurd hc (by decide)
  · rename_i hplus
    rw [(List.cons.inj hplus).1] at hc
    exact absurd hc (by decide)
  · rw [hread]
    rfl

/-! ## Single characters -/

theorem char_cons_self (c : Char) (rest : List Char) : char c (c :: rest) = some rest :=
  if_pos rfl

theorem char_cons_of_ne {c d : Char} (h : d ≠ c) (rest : List Char) :
    char c (d :: rest) = none :=
  if_neg h

/-! ## Names -/

/-- No name of a table is read where the first letter of none of them stands. -/
theorem oneOf_eq_none {α : Type} {table : List (String × α)} {c : Char}
    (htable : ∀ entry ∈ table, entry.1.toList.head?.any Char.isLower = true)
    (hc : c.toLower.isLower = false) (rest : List Char) : oneOf table (c :: rest) = none := by
  induction table with
  | nil => rfl
  | cons entry table ih =>
      obtain ⟨name, x⟩ := entry
      have hfirst := htable (name, x) List.mem_cons_self
      have hletters : letters name.toList (c :: rest) = none := by
        cases hname : name.toList with
        | nil =>
            rw [hname] at hfirst
            cases hfirst
        | cons l ls =>
            rw [hname] at hfirst
            rw [letters, if_neg]
            rintro rfl
            rw [List.head?_cons, Option.any_some, hc] at hfirst
            cases hfirst
      rw [oneOf, hletters]
      exact ih fun entry hentry => htable entry (List.mem_cons_of_mem _ hentry)

theorem weekdayName_eq_none {c : Char} (h : c.toLower.isLower = false) (rest : List Char) :
    weekdayName (c :: rest) = none :=
  oneOf_eq_none (by decide) h rest

theorem shortMonthName_eq_none {c : Char} (h : c.toLower.isLower = false) (rest : List Char) :
    shortMonthName (c :: rest) = none :=
  oneOf_eq_none (by decide) h rest

theorem monthName_eq_none {c : Char} (h : c.toLower.isLower = false) (rest : List Char) :
    monthName (c :: rest) = none := by
  rw [monthName, shortMonthName_eq_none h]

/-- The items that stand for a name. -/
def nameItems : List Item :=
  [.weekday, .shortMonth, .longMonth]

theorem read_name_eq_none {f : Fields} {item : Item} (hitem : item ∈ nameItems) {c : Char}
    (hc : c.toLower.isLower = false) (rest : List Char) : item.read f (c :: rest) = none := by
  simp only [nameItems, List.mem_cons, List.not_mem_nil, or_false] at hitem
  rcases hitem with rfl | rfl | rfl
  · rw [Item.read, weekdayName_eq_none hc, Option.map_none]
  · rw [Item.read, shortMonthName_eq_none hc, Option.map_none]
  · rw [Item.read, monthName_eq_none hc, Option.map_none]

/-- A digit is the first letter of no name. -/
theorem isLower_toLower_of_isDigit {c : Char} (h : c.isDigit = true) :
    c.toLower.isLower = false := by
  have hhigh : c.toNat ≤ 57 := (Char.isDigit_iff_toNat.mp h).2
  have hnone : ∀ n ≤ 57, (Char.ofNat n).toLower.isLower = false := by decide
  rw [← Char.ofNat_toNat c]
  exact hnone c.toNat hhigh

end RecordQuery.Calendar
