/-
# Integers that are spelled by a text

The texts that `asInt` reads, said without reading them:

    digits     one ASCII digit or more, any zeros in front; each one behind makes ten times as
               much of those before it, and adds itself
    numeral    digits, with `+`, with `-` or with no sign before them
    text       a numeral with blanks, or nothing, on either side

What a text spells is an integer of any size.  It is read where it lies in 64 bits, from
-9223372036854775808 to 9223372036854775807, and refused where it does not.
-/
import RecordQuery.Proofs.Text.Blank
import RecordQuery.Value.Basic
import Mathlib.Data.List.Induction

namespace RecordQuery

namespace Decimal

/-! ## Digits -/

/-- ASCII digits and the natural number that they spell. -/
inductive Digits : List Char → Nat → Prop
  | one {d : Nat} : d < 10 → Digits [d.digitChar] d
  | more {cs : List Char} {n d : Nat} :
      Digits cs n → d < 10 → Digits (cs ++ [d.digitChar]) (10 * n + d)

/-- Digits with at most one sign before them, and the integer that they spell. -/
inductive Numeral : List Char → Int → Prop
  | unsigned {cs : List Char} {n : Nat} : Digits cs n → Numeral cs n
  | plus {cs : List Char} {n : Nat} : Digits cs n → Numeral ('+' :: cs) n
  | minus {cs : List Char} {n : Nat} : Digits cs n → Numeral ('-' :: cs) (-n)

theorem exists_digitChar {c : Char} (h : c.isDigit = true) : ∃ d < 10, c = d.digitChar := by
  obtain ⟨hlow, hhigh⟩ := Char.isDigit_iff_toNat.mp h
  have hlow' : 48 ≤ c.toNat := hlow
  have hhigh' : c.toNat ≤ 57 := hhigh
  have hlt : c.toNat - 48 < 10 := by omega
  refine ⟨c.toNat - 48, hlt, ?_⟩
  rw [← Char.toNat_inj, Nat.toNat_digitChar_of_lt_ten hlt]
  omega

theorem isDigit_of_mem_digits {cs : List Char} {n : Nat} (h : Digits cs n) :
    ∀ c ∈ cs, c.isDigit = true := by
  induction h with
  | @one d hd =>
      intro c hc
      rw [List.mem_singleton.mp hc, Nat.isDigit_digitChar]
      exact decide_eq_true hd
  | @more cs n d _ hd ih =>
      intro c hc
      rcases List.mem_append.mp hc with hc | hc
      · exact ih c hc
      · rw [List.mem_singleton.mp hc, Nat.isDigit_digitChar]
        exact decide_eq_true hd

theorem Digits.ne_nil {cs : List Char} {n : Nat} (h : Digits cs n) : cs ≠ [] := by
  cases h with
  | one _ => exact List.cons_ne_nil _ _
  | more _ _ => exact List.append_ne_nil_of_right_ne_nil _ (List.cons_ne_nil _ _)

/-- Reading from the left is what the digits mean. -/
theorem Digits.ofDigitChars_eq {cs : List Char} {n : Nat} (h : Digits cs n) :
    Nat.ofDigitChars 10 cs 0 = n := by
  induction h with
  | one hd =>
      rw [Nat.ofDigitChars_cons_digitChar_of_lt_ten hd, Nat.ofDigitChars_nil]
      omega
  | more _ hd ih =>
      rw [Nat.ofDigitChars_append, ih, Nat.ofDigitChars_cons_digitChar_of_lt_ten hd,
        Nat.ofDigitChars_nil]

/-- Digits always spell something; the last one is taken off first. -/
theorem digits_ofDigitChars (cs : List Char) (hne : cs ≠ [])
    (hdigits : ∀ c ∈ cs, c.isDigit = true) : Digits cs (Nat.ofDigitChars 10 cs 0) := by
  induction cs using List.reverseRecOn with
  | nil => exact absurd rfl hne
  | append_singleton cs c ih =>
      obtain ⟨d, hd, rfl⟩ :=
        exists_digitChar (hdigits c (List.mem_append_right cs (List.mem_singleton.mpr rfl)))
      rw [Nat.ofDigitChars_append, Nat.ofDigitChars_cons_digitChar_of_lt_ten hd,
        Nat.ofDigitChars_nil]
      by_cases hcs : cs = []
      · subst hcs
        rw [Nat.ofDigitChars_nil, Nat.mul_zero, Nat.zero_add, List.nil_append]
        exact .one hd
      · exact .more (ih hcs fun c hc => hdigits c (List.mem_append_left _ hc)) hd

theorem nat?_eq_some_iff {cs : List Char} {n : Nat} : nat? cs = some n ↔ Digits cs n := by
  unfold nat?
  constructor
  · intro h
    split at h
    · rename_i hcs
      cases h
      exact digits_ofDigitChars cs hcs.1 (List.all_eq_true.mp hcs.2)
    · cases h
  · intro h
    rw [if_pos ⟨h.ne_nil, List.all_eq_true.mpr (isDigit_of_mem_digits h)⟩, h.ofDigitChars_eq]

/-! ## Numerals -/

theorem Digits.head_isDigit {c : Char} {cs : List Char} {n : Nat} (h : Digits (c :: cs) n) :
    c.isDigit = true :=
  isDigit_of_mem_digits h c List.mem_cons_self

theorem int?_eq_some_iff {cs : List Char} {v : Int} : int? cs = some v ↔ Numeral cs v := by
  constructor
  · intro h
    unfold int? at h
    split at h
    · rename_i ds
      cases hread : nat? ds with
      | none => rw [hread] at h; cases h
      | some n => rw [hread] at h; cases h; exact .plus (nat?_eq_some_iff.mp hread)
    · rename_i ds
      cases hread : nat? ds with
      | none => rw [hread] at h; cases h
      | some n => rw [hread] at h; cases h; exact .minus (nat?_eq_some_iff.mp hread)
    · cases hread : nat? cs with
      | none => rw [hread] at h; cases h
      | some n => rw [hread] at h; cases h; exact .unsigned (nat?_eq_some_iff.mp hread)
  · intro h
    cases h with
    | plus hds => rw [int?, nat?_eq_some_iff.mpr hds]; rfl
    | minus hds => rw [int?, nat?_eq_some_iff.mpr hds]; rfl
    | unsigned hcs =>
        unfold int?
        split
        · exact absurd hcs.head_isDigit (by decide)
        · exact absurd hcs.head_isDigit (by decide)
        · rw [nat?_eq_some_iff.mpr hcs]; rfl

/-- No character of a numeral is blank. -/
theorem Numeral.not_blank {cs : List Char} {v : Int} (h : Numeral cs v) :
    ∀ c ∈ cs, Text.isBlank c = false := by
  have hdigits : ∀ {cs : List Char} {n : Nat}, Digits cs n → ∀ c ∈ cs, Text.isBlank c = false :=
    fun hcs c hc => Text.isBlank_of_isDigit (isDigit_of_mem_digits hcs c hc)
  cases h with
  | unsigned hcs => exact hdigits hcs
  | plus hcs => exact List.forall_mem_cons.mpr ⟨by decide, hdigits hcs⟩
  | minus hcs => exact List.forall_mem_cons.mpr ⟨by decide, hdigits hcs⟩

theorem Numeral.ne_nil {cs : List Char} {v : Int} (h : Numeral cs v) : cs ≠ [] := by
  cases h with
  | unsigned hcs => exact hcs.ne_nil
  | plus _ => exact List.cons_ne_nil _ _
  | minus _ => exact List.cons_ne_nil _ _

/-! ## The range -/

theorem fit?_eq_none_iff {v : Int} :
    fit? v = none ↔ v < -9223372036854775808 ∨ 9223372036854775807 < v := by
  have hmin : Int64.minValue.toInt = -9223372036854775808 := rfl
  have hmax : Int64.maxValue.toInt = 9223372036854775807 := rfl
  unfold fit?
  rw [hmin, hmax]
  split
  · rename_i hrange
    constructor
    · intro h
      cases h
    · intro h
      omega
  · rename_i hrange
    exact ⟨fun _ => by omega, fun _ => rfl⟩

theorem fit?_eq_some_iff {v : Int} {n : Int64} : fit? v = some n ↔ n.toInt = v := by
  constructor
  · intro h
    unfold fit? at h
    split at h
    · rename_i hrange
      cases h
      exact Int64.toInt_ofInt_of_le hrange.1 (Int.lt_of_le_of_lt hrange.2 (by decide))
    · cases h
  · rintro rfl
    exact fit?_toInt n

/-! ## Texts -/

/-- A numeral for the integer stands in the text, and nothing but blanks around it. -/
def Spells (s : String) (v : Int) : Prop :=
  ∃ front cs back : List Char, s.toList = front ++ cs ++ back
    ∧ (∀ c ∈ front, Text.isBlank c = true) ∧ (∀ c ∈ back, Text.isBlank c = true) ∧ Numeral cs v

theorem int?_trim_eq_some_iff {s : String} {v : Int} :
    int? (Text.trim s.toList) = some v ↔ Spells s v := by
  rw [int?_eq_some_iff]
  constructor
  · intro h
    obtain ⟨front, back, hsplit, hfront, hback⟩ := Text.exists_blanks_trim s.toList
    exact ⟨front, Text.trim s.toList, back, hsplit, hfront, hback, h⟩
  · rintro ⟨front, cs, back, hsplit, hfront, hback, h⟩
    rw [hsplit, Text.trim_between hfront h.not_blank h.ne_nil hback]
    exact h

/-- The text of an integer spells it. -/
theorem spells_display (n : Int64) : Spells (Value.integer n).display n.toInt := by
  refine ⟨[], ofInt n.toInt, [], ?_, nofun, nofun, int?_eq_some_iff.mp (int?_ofInt n.toInt)⟩
  rw [Value.display, String.toList_ofList, List.nil_append, List.append_nil]

end Decimal

namespace Value

open Decimal

theorem asInt_text_eq_some_iff (s : String) (n : Int64) :
    (Value.text s).asInt = some n ↔ Spells s n.toInt := by
  rw [asInt, int64?, Option.bind_eq_some_iff]
  constructor
  · rintro ⟨v, hread, hfit⟩
    rw [fit?_eq_some_iff.mp hfit]
    exact int?_trim_eq_some_iff.mp hread
  · intro h
    exact ⟨n.toInt, int?_trim_eq_some_iff.mpr h, fit?_toInt n⟩

theorem asInt_text_eq_none_iff (s : String) :
    (Value.text s).asInt = none
      ↔ ∀ v : Int, Spells s v → v < -9223372036854775808 ∨ 9223372036854775807 < v := by
  rw [asInt, int64?, Option.bind_eq_none_iff]
  constructor
  · intro h v hspells
    exact fit?_eq_none_iff.mp (h v (int?_trim_eq_some_iff.mpr hspells))
  · intro h v hread
    exact fit?_eq_none_iff.mpr (h v (int?_trim_eq_some_iff.mp hread))

/-- The texts of integers are read as these integers, and none is passed over. -/
theorem filterMap_asInt_displays (ns : List Int64) :
    ((ns.map fun n => Value.text (Value.integer n).display).flatMap elements).filterMap asInt
      = ns := by
  induction ns with
  | nil => rfl
  | cons n ns ih =>
      have hread : (Value.text (Value.integer n).display).asInt = some n :=
        (asInt_text_eq_some_iff _ n).mpr (spells_display n)
      show (Value.text (Value.integer n).display
        :: (ns.map fun n => Value.text (Value.integer n).display).flatMap elements).filterMap asInt
          = n :: ns
      rw [List.filterMap_cons_some hread, ih]

/-- A text is read as an integer exactly when it spells that integer between blanks, and is
refused exactly when it spells none, or one that lies outside of 64 bits.  The text of every
integer is read as that integer, so a sum over such texts has the integers for its addends. -/
theorem asInt_reads_numerals :
    (∀ (s : String) (n : Int64), (Value.text s).asInt = some n ↔ Spells s n.toInt)
      ∧ (∀ s : String, (Value.text s).asInt = none
          ↔ ∀ v : Int, Spells s v → v < -9223372036854775808 ∨ 9223372036854775807 < v)
      ∧ (∀ n : Int64, (Value.text (Value.integer n).display).asInt = some n)
      ∧ ∀ ns : List Int64,
          ((ns.map fun n => Value.text (Value.integer n).display).flatMap elements).filterMap asInt
            = ns :=
  ⟨asInt_text_eq_some_iff, asInt_text_eq_none_iff,
    fun n => (asInt_text_eq_some_iff _ n).mpr (spells_display n), filterMap_asInt_displays⟩

/-- Both limits are read, with any zeros in front, and what lies one past them is refused. -/
example :
    (Value.text " -0009223372036854775808	").asInt = some Int64.minValue
      ∧ (Value.text "+9223372036854775807").asInt = some Int64.maxValue
      ∧ (Value.text "-9223372036854775809").asInt = none
      ∧ (Value.text "9223372036854775808").asInt = none
      ∧ (Value.text "+ 1").asInt = none := by
  decide

end Value

end RecordQuery
