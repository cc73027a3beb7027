/-
# Blanks at the ends of a text

Trimming stops at the first character from the end that is not blank, so a text in front of
it is kept as it is (`trimEnd_append_cons`), and so is one behind it (`trimStart_cons`).

A digit is never trimmed (`isBlank_of_isDigit`), and it is numeric (`isNumeric_of_isDigit`).
-/
import RecordQuery.Text.Blank
import RecordQuery.Text.Numeric
import Mathlib.Data.List.TakeWhile

namespace RecordQuery.Text

/-! ## Digits among the classes -/

theorem isBlank_of_isDigit {c : Char} (h : c.isDigit = true) : isBlank c = false := by
  obtain ⟨hlow, hhigh⟩ := Char.isDigit_iff_toNat.mp h
  have hlow' : 48 ≤ c.toNat := hlow
  have hhigh' : c.toNat ≤ 57 := hhigh
  have h13 : ¬ c.toNat ≤ 13 := by omega
  have h32 : ¬ c.toNat ≤ 32 := by omega
  have h133 : c.toNat < 133 := by omega
  simp [isBlank, blankRanges, Ranges.covers, h13, h32, h133]

theorem isNumeric_of_isDigit {c : Char} (h : c.isDigit = true) : isNumeric c = true := by
  obtain ⟨hlow, hhigh⟩ := Char.isDigit_iff_toNat.mp h
  have hlow' : ¬ c.toNat < 48 := Nat.not_lt.mpr hlow
  have hhigh' : c.toNat ≤ 57 := hhigh
  rw [isNumeric, numericRanges, Ranges.covers, if_neg hlow', decide_eq_true hhigh', Bool.true_or]

/-! ## Trimming -/

theorem trimStart_cons {c : Char} (h : isBlank c = false) (cs : List Char) :
    trimStart (c :: cs) = c :: cs := by
  rw [trimStart, List.dropWhile_cons_of_neg]
  rw [h]
  exact Bool.false_ne_true

/-- What is blank is trimmed away. -/
theorem trimEnd_of_blank {cs : List Char} (h : ∀ c ∈ cs, isBlank c = true) : trimEnd cs = [] := by
  have hdrop : cs.reverse.dropWhile isBlank = [] := by
    rw [List.dropWhile_eq_nil_iff]
    intro c hc
    exact h c (List.mem_reverse.mp hc)
  rw [trimEnd, hdrop, List.reverse_nil]

/-- Nothing is trimmed away up to a character that is not blank. -/
theorem trimEnd_append_cons {c : Char} (h : isBlank c = false) (cs rest : List Char) :
    trimEnd (cs ++ c :: rest) = cs ++ c :: trimEnd rest := by
  have hc : (c :: cs.reverse).dropWhile isBlank = c :: cs.reverse := trimStart_cons h _
  have hreverse : (cs ++ c :: rest).reverse = rest.reverse ++ c :: cs.reverse := by
    simp only [List.reverse_append, List.reverse_cons, List.append_assoc, List.singleton_append]
  rw [trimEnd, trimEnd, hreverse, List.dropWhile_append]
  cases hrest : rest.reverse.dropWhile isBlank with
  | nil =>
      rw [List.isEmpty_nil, if_pos rfl, hc]
      simp
  | cons d ds =>
      rw [List.isEmpty_cons, if_neg Bool.false_ne_true]
      simp

/-- A text without blanks is trimmed to itself. -/
theorem trim_of_not_blank {cs : List Char} (h : ∀ c ∈ cs, isBlank c = false) : trim cs = cs := by
  have hkeep : ∀ {ds : List Char}, (∀ c ∈ ds, isBlank c = false) → ds.dropWhile isBlank = ds := by
    intro ds hds
    cases ds with
    | nil => rfl
    | cons c ds => exact trimStart_cons (hds c List.mem_cons_self) ds
  rw [trim, trimEnd, trimStart, hkeep h, hkeep fun c hc => h c (List.mem_reverse.mp hc),
    List.reverse_reverse]

/-- What stands between blanks is what is left. -/
theorem trim_between {front cs back : List Char} (hfront : ∀ c ∈ front, isBlank c = true)
    (hcs : ∀ c ∈ cs, isBlank c = false) (hne : cs ≠ []) (hback : ∀ c ∈ back, isBlank c = true) :
    trim (front ++ cs ++ back) = cs := by
  have hstart : trimStart (front ++ cs ++ back) = cs ++ back := by
    obtain ⟨c, ds, rfl⟩ := List.exists_cons_of_ne_nil hne
    rw [trimStart, List.append_assoc, List.dropWhile_append_of_pos hfront]
    exact trimStart_cons (hcs c List.mem_cons_self) _
  have hlast : isBlank (cs.getLast hne) = false := hcs _ (List.getLast_mem hne)
  calc trim (front ++ cs ++ back)
      = trimEnd (cs ++ back) := by rw [trim, hstart]
    _ = trimEnd (cs.dropLast ++ cs.getLast hne :: back) := by
        rw [List.append_cons, List.dropLast_concat_getLast]
    _ = cs.dropLast ++ [cs.getLast hne] := by
        rw [trimEnd_append_cons hlast, trimEnd_of_blank hback]
    _ = cs := List.dropLast_concat_getLast hne

/-- Around what is left there are blanks. -/
theorem exists_blanks_trim (cs : List Char) :
    ∃ front back, cs = front ++ trim cs ++ back
      ∧ (∀ c ∈ front, isBlank c = true) ∧ ∀ c ∈ back, isBlank c = true := by
  have hends : trim cs ++ ((trimStart cs).reverse.takeWhile isBlank).reverse = trimStart cs := by
    rw [trim, trimEnd, ← List.reverse_append, List.takeWhile_append_dropWhile,
      List.reverse_reverse]
  refine ⟨cs.takeWhile isBlank, ((trimStart cs).reverse.takeWhile isBlank).reverse, ?_, ?_, ?_⟩
  · rw [List.append_assoc, hends, trimStart, List.takeWhile_append_dropWhile]
  · exact fun c hc => List.mem_takeWhile_imp hc
  · exact fun c hc => List.mem_takeWhile_imp (List.mem_reverse.mp hc)

end RecordQuery.Text
