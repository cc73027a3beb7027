/-
# Decimal numbers

Reading and writing of decimal digits.  A natural number is one or more ASCII
digits, leading zeros allowed; an integer may have one sign, `+` or `-`; a
64-bit integer must lie in its range, both limits included.  What is written is
read back: `nat?_ofNat`, `int?_ofInt`, `int64?_ofInt`.
-/

namespace RecordQuery.Decimal

/-! ## Reading -/

/-- One or more ASCII digits. -/
def nat? (cs : List Char) : Option Nat :=
  if cs ≠ [] ∧ cs.all Char.isDigit then some (Nat.ofDigitChars 10 cs 0) else none

/-- One or more ASCII digits, with at most one sign before them. -/
def int? : List Char → Option Int
  | '+' :: cs => (nat? cs).map fun n => (n : Int)
  | '-' :: cs => (nat? cs).map fun n => -(n : Int)
  | cs => (nat? cs).map fun n => (n : Int)

/-- The 64-bit integer that equals `n`, if there is one. -/
def fit? (n : Int) : Option Int64 :=
  if Int64.minValue.toInt ≤ n ∧ n ≤ Int64.maxValue.toInt then some (Int64.ofInt n) else none

/-- An integer that fits into 64 bits. -/
def int64? (cs : List Char) : Option Int64 :=
  (int? cs).bind fit?

/-! ## Writing -/

/-- The digits of a natural number, no zero in front. -/
def ofNat (n : Nat) : List Char :=
  Nat.toDigits 10 n

/-- The digits of an integer, a negative one after a minus sign. -/
def ofInt : Int → List Char
  | .ofNat n => ofNat n
  | .negSucc n => '-' :: ofNat (n + 1)

/-! ## What is written is read back -/

theorem isDigit_of_mem_ofNat {n : Nat} {c : Char} (h : c ∈ ofNat n) : c.isDigit = true :=
  Nat.isDigit_of_mem_toDigits (by decide) (by decide) h

theorem nat?_ofNat (n : Nat) : nat? (ofNat n) = some n := by
  have hall : (ofNat n).all Char.isDigit = true :=
    List.all_eq_true.mpr fun _ hc => isDigit_of_mem_ofNat hc
  have hne : ofNat n ≠ [] := Nat.toDigits_ne_nil
  rw [nat?, if_pos ⟨hne, hall⟩, ofNat, Nat.ofDigitChars_ten_toDigits]

theorem int?_ofNat (n : Nat) : int? (ofNat n) = some (n : Int) := by
  have hread := nat?_ofNat n
  have hdigit := fun c => @isDigit_of_mem_ofNat n c
  generalize ofNat n = cs at hread hdigit
  unfold int?
  split
  · exact absurd (hdigit '+' List.mem_cons_self) (by decide)
  · exact absurd (hdigit '-' List.mem_cons_self) (by decide)
  · simp [hread]

theorem int?_ofInt : ∀ n : Int, int? (ofInt n) = some n
  | .ofNat n => int?_ofNat n
  | .negSucc n => by simp [ofInt, int?, nat?_ofNat, Int.negSucc_eq]

theorem fit?_toInt (n : Int64) : fit? n.toInt = some n := by
  rw [fit?, if_pos ⟨Int64.minValue_le_toInt n, Int64.toInt_le n⟩, Int64.ofInt_toInt]

theorem int64?_ofInt (n : Int64) : int64? (ofInt n.toInt) = some n := by
  simp [int64?, int?_ofInt, fit?_toInt]

end RecordQuery.Decimal
