/-
# The order of values is total

`Value.compare` is a total order whose ties are equalities, on values nested to any
depth, and `Value.compareKeys` is one on key lists of one length.

Values of different shape are told apart by rank alone, so every law is proved
twice over: across ranks it is a law of the numbers, and within one rank it is the
law of the texts, of the integers, or, for lists, of the elements and of the rest
(the two are proved together).  Key lists of one length compare as lists do
(`compareKeys_eq_compareList`) and need no laws of their own.  Key lists of
different lengths are in no order: a list without keys ties with every other one.
-/
import RecordQuery.Value.Order

namespace RecordQuery

namespace Value

/-! ## Across ranks -/

theorem compare_of_rank_ne {v w : Value} (h : v.rank ≠ w.rank) :
    compare v w = Ord.compare v.rank w.rank := by
  cases v <;> cases w <;> first | rfl | exact absurd rfl h

theorem rank_le_of_isLE {v w : Value} (h : (compare v w).isLE = true) : v.rank ≤ w.rank := by
  by_cases hrank : v.rank = w.rank
  · exact Nat.le_of_eq hrank
  · rw [compare_of_rank_ne hrank] at h
    exact Nat.isLE_compare.mp h

theorem isLE_of_rank_lt {v w : Value} (h : v.rank < w.rank) : (compare v w).isLE = true := by
  rw [compare_of_rank_ne (Nat.ne_of_lt h), Nat.compare_eq_lt.mpr h]
  rfl

/-- Three values that are not all of one shape are in order as soon as neighbours
are: the ranks rise somewhere and never fall. -/
theorem isLE_trans_of_rank {v w x : Value} (hrank : ¬ (v.rank = w.rank ∧ w.rank = x.rank))
    (hvw : (compare v w).isLE = true) (hwx : (compare w x).isLE = true) :
    (compare v x).isLE = true := by
  have hvw' : v.rank ≤ w.rank := rank_le_of_isLE hvw
  have hwx' : w.rank ≤ x.rank := rank_le_of_isLE hwx
  exact isLE_of_rank_lt (by omega)

theorem rank_eq_of_compare_eq {v w : Value} (h : compare v w = .eq) : v.rank = w.rank := by
  by_cases hrank : v.rank = w.rank
  · exact hrank
  · rw [compare_of_rank_ne hrank] at h
    exact Nat.compare_eq_eq.mp h

/-! ## Turning a comparison round -/

mutual

theorem compare_swap : ∀ v w : Value, compare v w = (compare w v).swap
  | .text _, .text _ => Std.OrientedOrd.eq_swap
  | .integer _, .integer _ => Std.OrientedOrd.eq_swap
  | .list vs, .list ws => compareList_swap vs ws
  | .nil, .nil => rfl
  | .text _, .integer _ | .text _, .list _ | .text _, .nil
  | .integer _, .text _ | .integer _, .list _ | .integer _, .nil
  | .list _, .text _ | .list _, .integer _ | .list _, .nil
  | .nil, .text _ | .nil, .integer _ | .nil, .list _ => rfl

theorem compareList_swap : ∀ vs ws : List Value, compareList vs ws = (compareList ws vs).swap
  | [], [] | [], _ :: _ | _ :: _, [] => rfl
  | v :: vs, w :: ws => by
      rw [compareList, compareList, compare_swap v w, compareList_swap vs ws,
        Ordering.swap_then]

end

/-! ## Ties are equalities -/

mutual

theorem compare_self : ∀ v : Value, compare v v = .eq
  | .text _ => Std.ReflOrd.compare_self
  | .integer _ => Std.ReflOrd.compare_self
  | .list vs => compareList_self vs
  | .nil => rfl

theorem compareList_self : ∀ vs : List Value, compareList vs vs = .eq
  | [] => rfl
  | v :: vs => by rw [compareList, compare_self v, compareList_self vs, Ordering.eq_then]

end

mutual

theorem eq_of_compare : ∀ {v w : Value}, compare v w = .eq → v = w
  | .text _, .text _, h => by
      rw [String.ext (Std.LawfulEqOrd.eq_of_compare h)]
  | .integer _, .integer _, h => by
      rw [Int64.toInt_inj.mp (Std.LawfulEqOrd.eq_of_compare h)]
  | .list vs, .list ws, h => by rw [@eq_of_compareList vs ws h]
  | .nil, .nil, _ => rfl
  | .text _, .integer _, h | .text _, .list _, h | .text _, .nil, h
  | .integer _, .text _, h | .integer _, .list _, h | .integer _, .nil, h
  | .list _, .text _, h | .list _, .integer _, h | .list _, .nil, h
  | .nil, .text _, h | .nil, .integer _, h | .nil, .list _, h =>
      absurd (rank_eq_of_compare_eq h) (by simp [rank])

theorem eq_of_compareList : ∀ {vs ws : List Value}, compareList vs ws = .eq → vs = ws
  | [], [], _ => rfl
  | [], _ :: _, h => nomatch h
  | _ :: _, [], h => nomatch h
  | v :: vs, w :: ws, h => by
      obtain ⟨hhead, htail⟩ := Ordering.then_eq_eq.mp h
      rw [eq_of_compare hhead, eq_of_compareList htail]

end

/-! ## Transitivity -/

theorem eq_of_isLE_of_isLE {v w : Value} (hvw : (compare v w).isLE = true)
    (hwv : (compare w v).isLE = true) : v = w := by
  rw [compare_swap w v] at hwv
  exact eq_of_compare (Ordering.eq_eq_of_isLE_of_isLE_swap hvw hwv)

mutual

theorem compare_isLE_trans : ∀ {v w x : Value}, (compare v w).isLE = true →
    (compare w x).isLE = true → (compare v x).isLE = true
  | .text _, .text _, .text _, hvw, hwx => Std.TransOrd.isLE_trans hvw hwx
  | .integer _, .integer _, .integer _, hvw, hwx => Std.TransOrd.isLE_trans hvw hwx
  | .list vs, .list ws, .list xs, hvw, hwx =>
      @compareList_isLE_trans vs ws xs hvw hwx
  | .nil, .nil, .nil, _, _ => rfl
  | .text _, .integer _, _, hvw, hwx | .text _, .list _, _, hvw, hwx
  | .text _, .nil, _, hvw, hwx | .integer _, .text _, _, hvw, hwx
  | .integer _, .list _, _, hvw, hwx | .integer _, .nil, _, hvw, hwx
  | .list _, .text _, _, hvw, hwx | .list _, .integer _, _, hvw, hwx
  | .list _, .nil, _, hvw, hwx | .nil, .text _, _, hvw, hwx
  | .nil, .integer _, _, hvw, hwx | .nil, .list _, _, hvw, hwx
  | .text _, .text _, .integer _, hvw, hwx | .text _, .text _, .list _, hvw, hwx
  | .text _, .text _, .nil, hvw, hwx | .integer _, .integer _, .text _, hvw, hwx
  | .integer _, .integer _, .list _, hvw, hwx | .integer _, .integer _, .nil, hvw, hwx
  | .list _, .list _, .text _, hvw, hwx | .list _, .list _, .integer _, hvw, hwx
  | .list _, .list _, .nil, hvw, hwx | .nil, .nil, .text _, hvw, hwx
  | .nil, .nil, .integer _, hvw, hwx | .nil, .nil, .list _, hvw, hwx =>
      isLE_trans_of_rank (by simp [rank]) hvw hwx

theorem compareList_isLE_trans : ∀ {vs ws xs : List Value}, (compareList vs ws).isLE = true →
    (compareList ws xs).isLE = true → (compareList vs xs).isLE = true
  | [], _, [], _, _ => rfl
  | [], _, _ :: _, _, _ => rfl
  | _ :: _, [], _, h, _ => nomatch h
  | _ :: _, _ :: _, [], _, h => nomatch h
  | v :: vs, w :: ws, x :: xs, hvw, hwx => by
      obtain ⟨hheadvw, htailvw⟩ := Ordering.isLE_then_iff_and.mp hvw
      obtain ⟨hheadwx, htailwx⟩ := Ordering.isLE_then_iff_and.mp hwx
      have hvx : (compare v x).isLE = true := compare_isLE_trans hheadvw hheadwx
      refine Ordering.isLE_then_iff_and.mpr ⟨hvx, ?_⟩
      -- When the outer heads tie, all three are one value, and the tails decide.
      rcases Ordering.isLE_iff_eq_lt_or_eq_eq.mp hvx with hlt | heq
      · exact Or.inl hlt
      · obtain rfl : v = x := eq_of_compare heq
        obtain rfl : v = w := eq_of_isLE_of_isLE hheadvw hheadwx
        have hnotlt : compare v v ≠ .lt := by
          rw [compare_self]
          decide
        exact Or.inr (compareList_isLE_trans (htailvw.resolve_left hnotlt)
          (htailwx.resolve_left hnotlt))

end

instance : Std.OrientedCmp compare where
  eq_swap := compare_swap _ _

instance : Std.TransCmp compare where
  isLE_trans := compare_isLE_trans

instance : Std.LawfulEqCmp compare where
  compare_self := compare_self _
  eq_of_compare := eq_of_compare

/-! ## Key lists -/

/-- Key lists of one length compare as lists of values do. -/
theorem compareKeys_eq_compareList : ∀ {vs ws : List Value}, vs.length = ws.length →
    compareKeys vs ws = compareList vs ws
  | [], [], _ => rfl
  | [], _ :: _, h => nomatch h
  | _ :: _, [], h => nomatch h
  | v :: vs, w :: ws, h => by
      rw [compareKeys, compareList, compareKeys_eq_compareList (Nat.succ.inj h)]

/-- Of longer key lists the first keys decide, and the others when those tie. -/
theorem compareKeys_append : ∀ {vs ws : List Value} (vs' ws' : List Value),
    vs.length = ws.length →
      compareKeys (vs ++ vs') (ws ++ ws') = (compareKeys vs ws).then (compareKeys vs' ws')
  | [], [], _, _, _ => rfl
  | [], _ :: _, _, _, h => nomatch h
  | _ :: _, [], _, _, h => nomatch h
  | v :: vs, w :: ws, vs', ws', h => by
      rw [List.cons_append, List.cons_append, compareKeys, compareKeys,
        compareKeys_append vs' ws' (Nat.succ.inj h), Ordering.then_assoc]

theorem compareKeys_swap {vs ws : List Value} (h : vs.length = ws.length) :
    compareKeys vs ws = (compareKeys ws vs).swap := by
  rw [compareKeys_eq_compareList h, compareKeys_eq_compareList h.symm, compareList_swap]

theorem compareKeys_self (vs : List Value) : compareKeys vs vs = .eq := by
  rw [compareKeys_eq_compareList rfl, compareList_self]

theorem eq_of_compareKeys {vs ws : List Value} (hlength : vs.length = ws.length)
    (h : compareKeys vs ws = .eq) : vs = ws := by
  rw [compareKeys_eq_compareList hlength] at h
  exact eq_of_compareList h

theorem compareKeys_isLE_trans {vs ws xs : List Value} (hvw : vs.length = ws.length)
    (hwx : ws.length = xs.length) (h : (compareKeys vs ws).isLE = true)
    (h' : (compareKeys ws xs).isLE = true) : (compareKeys vs xs).isLE = true := by
  rw [compareKeys_eq_compareList hvw] at h
  rw [compareKeys_eq_compareList hwx] at h'
  rw [compareKeys_eq_compareList (hvw.trans hwx)]
  exact compareList_isLE_trans h h'

/-! ## The order as a whole -/

/-- Comparing the other way round gives the reverse, order is passed on, and nothing ties but
equal values; and the same holds of key lists of one length, which is what a sort asks for. -/
theorem compare_total_order :
    (∀ v w : Value, compare w v = (compare v w).swap)
      ∧ (∀ v w x : Value, (compare v w).isLE = true → (compare w x).isLE = true →
        (compare v x).isLE = true)
      ∧ (∀ v w : Value, compare v w = .eq ↔ v = w)
      ∧ (∀ vs ws : List Value, vs.length = ws.length →
        compareKeys ws vs = (compareKeys vs ws).swap)
      ∧ (∀ vs ws xs : List Value, vs.length = ws.length → ws.length = xs.length →
        (compareKeys vs ws).isLE = true → (compareKeys ws xs).isLE = true →
          (compareKeys vs xs).isLE = true)
      ∧ ∀ vs ws : List Value, vs.length = ws.length → (compareKeys vs ws = .eq ↔ vs = ws) := by
  refine ⟨fun v w => compare_swap w v, fun v w x => compare_isLE_trans, fun v w => ?_,
    fun vs ws h => compareKeys_swap h.symm, fun vs ws xs => compareKeys_isLE_trans,
    fun vs ws h => ?_⟩
  · constructor
    · exact eq_of_compare
    · rintro rfl
      exact compare_self v
  · constructor
    · exact eq_of_compareKeys h
    · rintro rfl
      exact compareKeys_self vs

/-- Three lists, of which the first two differ in the shape of an element and the last two in
their length, and key lists that begin with them. -/
theorem compare_total_order_nested :
    let v : Value := .list [.integer 2, .list []]
    let w : Value := .list [.text "2"]
    let x : Value := .list [.text "2", .nil]
    (compare v w).isLE = true ∧ (compare w x).isLE = true ∧ (compare v x).isLE = true
      ∧ compare x v = (compare v x).swap
      ∧ (compareKeys [v, x] [w, .nil]).isLE = true ∧ (compareKeys [w, .nil] [x, v]).isLE = true
      ∧ (compareKeys [v, x] [x, v]).isLE = true
      ∧ (compareKeys [v, x] [x, v] = .eq ↔ [v, x] = [x, v]) := by
  obtain ⟨hswap, htrans, -, -, hkeystrans, hkeyseq⟩ := compare_total_order
  exact ⟨rfl, rfl, htrans _ (.list [.text "2"]) _ rfl rfl, hswap _ _, rfl, rfl,
    hkeystrans _ [.list [.text "2"], .nil] _ rfl rfl rfl rfl, hkeyseq _ _ rfl⟩

end Value

end RecordQuery
