/-
# What aggregates make of a group

An aggregate asks every member for its argument and makes one value of the answers:

    f.count     how many members there are; nothing is asked
    f.sum[a]    the clamped sum of the integers among the elements of the answers to `a`

The elements of a list are added one by one, but a list among them is no integer: the sum
opens one list and no second one inside it.

A sum is clamped after every addition.  It is the sum of the integers themselves when no
partial sum leaves the 64-bit range, since then nothing is clamped (`toInt_sumClamped`).
-/
import RecordQuery.Query.Builtin
import RecordQuery.Query.Eval
import Mathlib.Algebra.Ring.Int.Defs

namespace RecordQuery

/-! ## Clamped sums -/

/-- An integer of 64 bits. -/
def InRange (n : Int) : Prop :=
  Int64.minValue.toInt ≤ n ∧ n ≤ Int64.maxValue.toInt

instance (n : Int) : Decidable (InRange n) :=
  inferInstanceAs (Decidable (_ ∧ _))

/-- No partial sum leaves the range. -/
def PartialSumsFit (ns : List Int64) : Prop :=
  ∀ n : Nat, InRange ((ns.take n).map Int64.toInt).sum

/-- From the length of the list on the sums are all one. -/
theorem partialSumsFit_iff (ns : List Int64) :
    PartialSumsFit ns ↔ ∀ n < ns.length + 1, InRange ((ns.take n).map Int64.toInt).sum := by
  constructor
  · exact fun h n _ => h n
  · intro h n
    rcases Nat.lt_or_ge n (ns.length + 1) with hn | hn
    · exact h n hn
    · have hall := h ns.length (Nat.lt_succ_self _)
      rw [List.take_length] at hall
      rwa [List.take_of_length_le (Nat.le_of_succ_le hn)]

instance (ns : List Int64) : Decidable (PartialSumsFit ns) :=
  decidable_of_iff' _ (partialSumsFit_iff ns)

theorem toInt_addClamped {m n : Int64} (h : InRange (m.toInt + n.toInt)) :
    (addClamped m n).toInt = m.toInt + n.toInt :=
  Int64.toInt_ofIntClamp h.1 h.2

/-- The induction, from any sum so far. -/
theorem toInt_foldl_addClamped : ∀ {ns : List Int64} {total : Int64},
    (∀ n : Nat, InRange (total.toInt + ((ns.take n).map Int64.toInt).sum)) →
      (ns.foldl addClamped total).toInt = total.toInt + (ns.map Int64.toInt).sum
  | [], total, _ => (Int.add_zero total.toInt).symm
  | m :: ns, total, h => by
      have hone : InRange (total.toInt + m.toInt) := by
        have hfirst := h 1
        rwa [List.take_succ_cons, List.take_zero, List.map_singleton, List.sum_singleton]
          at hfirst
      have hadd := toInt_addClamped hone
      have hrest : ∀ n : Nat,
          InRange ((addClamped total m).toInt + ((ns.take n).map Int64.toInt).sum) := by
        intro n
        have hnext := h (n + 1)
        rwa [List.take_succ_cons, List.map_cons, List.sum_cons, ← Int.add_assoc, ← hadd]
          at hnext
      rw [List.foldl_cons, toInt_foldl_addClamped hrest, hadd, List.map_cons, List.sum_cons,
        Int.add_assoc]

/-- Where no partial sum leaves the range, nothing is clamped. -/
theorem toInt_sumClamped {ns : List Int64} (h : PartialSumsFit ns) :
    (sumClamped ns).toInt = (ns.map Int64.toInt).sum := by
  have hzero : (0 : Int64).toInt = 0 := rfl
  have hsum := @toInt_foldl_addClamped ns 0 fun n => by
    rw [hzero, Int.zero_add]
    exact h n
  rwa [hzero, Int.zero_add] at hsum

/-! ## Functions of the language -/

/-- A call of a function that the language provides is run on what its arguments mean. -/
theorem eval_call_of_provides {fs : Registry} {b : Builtin} (h : fs.Provides b)
    (args : List Expr) : (Expr.call b.name args).eval fs = b.run (args.map (Expr.eval fs)) := by
  rw [Expr.eval_call_of_find? h, ← map_read_evalArgs]
  rfl

/-! ## Aggregates of a group -/

/-- The integers that a sum reads from the answers of the members. -/
def integersIn (answers : List Value) : List Int64 :=
  (answers.flatMap Value.elements).filterMap Value.asInt

/-- Where no answer is a list, they are the answers that are read as integers. -/
theorem integersIn_of_noList : ∀ {answers : List Value}, (∀ vs, Value.list vs ∉ answers) →
    integersIn answers = answers.filterMap Value.asInt
  | [], _ => rfl
  | v :: answers, h => by
      have ih := integersIn_of_noList fun vs hvs => h vs (List.mem_cons_of_mem v hvs)
      rw [integersIn] at ih ⊢
      rw [List.flatMap_cons, List.filterMap_append, ih]
      cases v with
      | text s => exact (List.filterMap_append (l := [Value.text s])).symm
      | integer n => exact (List.filterMap_append (l := [Value.integer n])).symm
      | list vs => exact absurd List.mem_cons_self (h vs)
      | nil => rfl

variable {fs : Registry}

theorem eval_count_group (h : fs.Provides .count) (g : Group) :
    (Expr.call "count" []).eval fs (.group g) = .ok (.ofSize g.members.size) :=
  congrFun (eval_call_of_provides h []) (.group g)

/-- A sum is over the answers of the members to its first argument. -/
theorem eval_sum_of_answers (h : fs.Provides .sum) {arg : Expr} {g : Group}
    {answers : List Value} (hanswers : g.members.entries.mapM (arg.eval fs) = .ok answers)
    (others : List Expr) :
    (Expr.call "sum" (arg :: others)).eval fs (.group g)
      = .ok (.integer (sumClamped (integersIn answers))) := by
  refine (congrFun (eval_call_of_provides h (arg :: others)) (.group g)).trans ?_
  show sumMembers g.members (arg.eval fs) = _
  rw [sumMembers, hanswers]
  rfl

theorem eval_sum_group (h : fs.Provides .sum) {key : String} {g : Group} {answers : List Value}
    (hanswers : g.members.entries.mapM (Entry.get · key) = .ok answers) :
    (Expr.call "sum" [.field key]).eval fs (.group g)
      = .ok (.integer (sumClamped (integersIn answers))) := by
  refine eval_sum_of_answers h ?_ []
  rw [show (Expr.field key).eval fs = (Entry.get · key) by rw [Expr.eval], hanswers]

end RecordQuery
