/-
# Sums and the order of their addends

A sum is clamped after every addition.  What is cut off at a limit is gone, and an addend
that leads back from the limit starts from there:

    max + 1 - 1     max - 1
    -1 + 1 + max    max

The first is not the exact sum, and the two differ though they have the same addends.  It
takes a limit that is passed and an addend of the other sign: `OrderFree` excludes that, and
nothing more has to be excluded (`orderFree_iff`).  Then a sum is the exact one, clamped once,
whatever the order of the addends, and so it does not matter in what order the members of a
group come, or whether they were sorted before they were grouped.
-/
import RecordQuery.Proofs.Plan.SortedGroups
import RecordQuery.Proofs.Query.Aggregate
import Mathlib.Algebra.BigOperators.Group.List.Basic

namespace RecordQuery

/-! ## Addends above zero and the others -/

/-- The exact sum. -/
def exactSum (ns : List Int64) : Int :=
  (ns.map Int64.toInt).sum

/-- The addends above zero. -/
def gainsOf (ns : List Int64) : List Int64 :=
  ns.filter fun n => 0 < n.toInt

/-- The addends that are not above zero. -/
def lossesOf (ns : List Int64) : List Int64 :=
  ns.filter fun n => !decide (0 < n.toInt)

theorem exactSum_cons (n : Int64) (ns : List Int64) :
    exactSum (n :: ns) = n.toInt + exactSum ns := by
  simp [exactSum]

theorem exactSum_perm {ns ns' : List Int64} (h : ns.Perm ns') : exactSum ns = exactSum ns' :=
  (h.map Int64.toInt).sum_eq

theorem exactSum_gainsOf_cons (n : Int64) (ns : List Int64) :
    exactSum (gainsOf (n :: ns)) = max n.toInt 0 + exactSum (gainsOf ns) := by
  by_cases h : 0 < n.toInt
  · simp only [gainsOf, List.filter_cons, h, decide_true, if_true, exactSum_cons]
    omega
  · simp only [gainsOf, List.filter_cons, h, decide_false, Bool.false_eq_true, if_false]
    omega

theorem exactSum_lossesOf_cons (n : Int64) (ns : List Int64) :
    exactSum (lossesOf (n :: ns)) = min n.toInt 0 + exactSum (lossesOf ns) := by
  by_cases h : 0 < n.toInt
  · simp only [lossesOf, List.filter_cons, h, decide_true, Bool.not_true, Bool.false_eq_true,
      if_false]
    omega
  · simp only [lossesOf, List.filter_cons, h, decide_false, Bool.not_false, if_true,
      exactSum_cons]
    omega

/-- No part of the addends gains more than all of them, or loses more. -/
theorem exactSum_take_bounds (ns : List Int64) (n : Nat) :
    exactSum (lossesOf ns) ≤ exactSum (ns.take n)
      ∧ exactSum (ns.take n) ≤ exactSum (gainsOf ns) := by
  induction ns generalizing n with
  | nil => simp [gainsOf, lossesOf]
  | cons m ns ih =>
      rw [exactSum_gainsOf_cons, exactSum_lossesOf_cons]
      cases n with
      | zero =>
          have hnone := ih 0
          simp only [List.take_zero] at hnone ⊢
          have hzero : exactSum [] = 0 := rfl
          omega
      | succ n =>
          have hrest := ih n
          rw [List.take_succ_cons, exactSum_cons]
          omega

/-! ## Addends of one sign -/

/-- None of the addends leads back from where the others lead. -/
def SameSign (ns : List Int64) : Prop :=
  (∀ n ∈ ns, 0 ≤ n.toInt) ∨ ∀ n ∈ ns, n.toInt ≤ 0

theorem exactSum_nonneg {ns : List Int64} (h : ∀ n ∈ ns, 0 ≤ n.toInt) : 0 ≤ exactSum ns := by
  induction ns with
  | nil => exact Int.le_refl 0
  | cons n ns ih =>
      obtain ⟨hn, hns⟩ := List.forall_mem_cons.mp h
      have hrest := ih hns
      rw [exactSum_cons]
      omega

theorem exactSum_nonpos {ns : List Int64} (h : ∀ n ∈ ns, n.toInt ≤ 0) : exactSum ns ≤ 0 := by
  induction ns with
  | nil => exact Int.le_refl 0
  | cons n ns ih =>
      obtain ⟨hn, hns⟩ := List.forall_mem_cons.mp h
      have hrest := ih hns
      rw [exactSum_cons]
      omega

/-- The head and the sum of the others are of one sign. -/
theorem SameSign.of_cons {n : Int64} {ns : List Int64} (h : SameSign (n :: ns)) :
    SameSign ns ∧ ((0 ≤ n.toInt ∧ 0 ≤ exactSum ns) ∨ (n.toInt ≤ 0 ∧ exactSum ns ≤ 0)) := by
  rcases h with h | h
  · obtain ⟨hn, hns⟩ := List.forall_mem_cons.mp h
    exact ⟨Or.inl hns, Or.inl ⟨hn, exactSum_nonneg hns⟩⟩
  · obtain ⟨hn, hns⟩ := List.forall_mem_cons.mp h
    exact ⟨Or.inr hns, Or.inr ⟨hn, exactSum_nonpos hns⟩⟩

theorem toInt_ofIntClamp_eq (n : Int) :
    (Int64.ofIntClamp n).toInt = max Int64.minValue.toInt (min n Int64.maxValue.toInt) := by
  have hlimits : Int64.minValue.toInt ≤ Int64.maxValue.toInt := by decide
  by_cases hlow : Int64.minValue.toInt ≤ n
  · by_cases hhigh : n ≤ Int64.maxValue.toInt
    · rw [Int64.toInt_ofIntClamp hlow hhigh]
      omega
    · rw [Int64.ofIntClamp, dif_pos hlow, dif_neg hhigh]
      omega
  · rw [Int64.ofIntClamp, dif_neg hlow]
    omega

/-- Addends of one sign pass a limit once and stay there, so clamping at the end is enough. -/
theorem foldl_addClamped_of_sameSign {ns : List Int64} (h : SameSign ns) (start : Int64) :
    ns.foldl addClamped start = Int64.ofIntClamp (start.toInt + exactSum ns) := by
  induction ns generalizing start with
  | nil =>
      have hzero : exactSum [] = 0 := rfl
      rw [List.foldl_nil, hzero, Int.add_zero, Int64.ofIntClamp_toInt]
  | cons n ns ih =>
      obtain ⟨htail, hsigns⟩ := h.of_cons
      have hlow := Int64.minValue_le_toInt start
      have hhigh := Int64.toInt_le start
      rw [List.foldl_cons, ih htail, ← Int64.toInt_inj, toInt_ofIntClamp_eq, toInt_ofIntClamp_eq,
        addClamped, toInt_ofIntClamp_eq, exactSum_cons]
      omega

theorem sameSign_gainsOf (ns : List Int64) : SameSign (gainsOf ns) := by
  refine Or.inl fun n hn => ?_
  have hpos : 0 < n.toInt := of_decide_eq_true (List.mem_filter.mp hn).2
  omega

theorem sameSign_lossesOf (ns : List Int64) : SameSign (lossesOf ns) := by
  refine Or.inr fun n hn => ?_
  have hneg := (List.mem_filter.mp hn).2
  rw [Bool.not_eq_true', decide_eq_false_iff_not] at hneg
  omega

theorem exactSum_gainsOf_nonneg (ns : List Int64) : 0 ≤ exactSum (gainsOf ns) :=
  (exactSum_take_bounds ns 0).2

theorem exactSum_lossesOf_nonpos (ns : List Int64) : exactSum (lossesOf ns) ≤ 0 :=
  (exactSum_take_bounds ns 0).1

/-- An addend below zero is a loss. -/
theorem exactSum_lossesOf_neg {ns : List Int64} {n : Int64} (hn : n ∈ ns) (hneg : n.toInt < 0) :
    exactSum (lossesOf ns) < 0 := by
  induction ns with
  | nil => exact absurd hn List.not_mem_nil
  | cons m ns ih =>
      rw [exactSum_lossesOf_cons]
      rcases List.mem_cons.mp hn with rfl | hn
      · have hrest := exactSum_lossesOf_nonpos ns
        omega
      · have hrest := ih hn
        omega

/-- An addend above zero is a gain. -/
theorem exactSum_gainsOf_pos {ns : List Int64} {n : Int64} (hn : n ∈ ns) (hpos : 0 < n.toInt) :
    0 < exactSum (gainsOf ns) := by
  induction ns with
  | nil => exact absurd hn List.not_mem_nil
  | cons m ns ih =>
      rw [exactSum_gainsOf_cons]
      rcases List.mem_cons.mp hn with rfl | hn
      · have hrest := exactSum_gainsOf_nonneg ns
        omega
      · have hrest := ih hn
        omega

/-! ## Sums that do not depend on the order -/

/-- No limit can be passed and then left again: the gains keep within the upper limit or
nothing is lost, and the losses keep within the lower one or nothing is gained. -/
structure OrderFree (ns : List Int64) : Prop where
  above : exactSum (gainsOf ns) ≤ Int64.maxValue.toInt ∨ ∀ n ∈ ns, 0 ≤ n.toInt
  below : Int64.minValue.toInt ≤ exactSum (lossesOf ns) ∨ ∀ n ∈ ns, n.toInt ≤ 0

theorem OrderFree.perm {ns ns' : List Int64} (h : OrderFree ns) (hperm : ns'.Perm ns) :
    OrderFree ns' where
  above := by
    have hgains : exactSum (gainsOf ns') = exactSum (gainsOf ns) := exactSum_perm (hperm.filter _)
    rw [hgains]
    exact h.above.imp_right fun hall n hn => hall n (hperm.mem_iff.mp hn)
  below := by
    have hlosses : exactSum (lossesOf ns') = exactSum (lossesOf ns) :=
      exactSum_perm (hperm.filter _)
    rw [hlosses]
    exact h.below.imp_right fun hall n hn => hall n (hperm.mem_iff.mp hn)

/-- Then the sum is the exact one, clamped once. -/
theorem OrderFree.sumClamped_eq {ns : List Int64} (h : OrderFree ns) :
    sumClamped ns = Int64.ofIntClamp (exactSum ns) := by
  have honeSign : SameSign ns → sumClamped ns = Int64.ofIntClamp (exactSum ns) := by
    intro hsign
    have hsum := foldl_addClamped_of_sameSign hsign 0
    rwa [show (0 : Int64).toInt = 0 from rfl, Int.zero_add] at hsum
  rcases h.above with hgains | hpos
  · rcases h.below with hlosses | hneg
    · -- Both sides keep within the limits, and so does every partial sum.
      have hfit : PartialSumsFit ns := by
        intro n
        have hpart := exactSum_take_bounds ns n
        exact ⟨Int.le_trans hlosses hpart.1, Int.le_trans hpart.2 hgains⟩
      have hexact : (sumClamped ns).toInt = exactSum ns := toInt_sumClamped hfit
      rw [← hexact, Int64.ofIntClamp_toInt]
    · exact honeSign (Or.inr hneg)
  · exact honeSign (Or.inl hpos)

/-- First addends of one sign and then addends of one sign. -/
theorem toInt_sumClamped_append {ns ns' : List Int64} (h : SameSign ns) (h' : SameSign ns') :
    (sumClamped (ns ++ ns')).toInt
      = max Int64.minValue.toInt (min
          (max Int64.minValue.toInt (min (exactSum ns) Int64.maxValue.toInt) + exactSum ns')
          Int64.maxValue.toInt) := by
  have hzero : (0 : Int64).toInt = 0 := rfl
  rw [sumClamped, List.foldl_append, foldl_addClamped_of_sameSign h,
    foldl_addClamped_of_sameSign h', toInt_ofIntClamp_eq, toInt_ofIntClamp_eq, hzero, Int.zero_add]

/-- A sum is the exact one, clamped once, in every order of its addends if and only if no limit
can be passed and left again.  Where one can, the gains before the losses and the losses before
the gains come to different sums. -/
theorem orderFree_iff (ns : List Int64) :
    OrderFree ns ↔ ∀ ns' : List Int64, ns'.Perm ns →
      sumClamped ns' = Int64.ofIntClamp (exactSum ns) := by
  constructor
  · intro h ns' hperm
    rw [(h.perm hperm).sumClamped_eq, exactSum_perm hperm]
  · intro h
    have hparts : (gainsOf ns ++ lossesOf ns).Perm ns := List.filter_append_perm _ ns
    have hsame : (sumClamped (gainsOf ns ++ lossesOf ns)).toInt
        = (sumClamped (lossesOf ns ++ gainsOf ns)).toInt := by
      rw [h _ hparts, h _ (List.perm_append_comm.trans hparts)]
    rw [toInt_sumClamped_append (sameSign_gainsOf ns) (sameSign_lossesOf ns),
      toInt_sumClamped_append (sameSign_lossesOf ns) (sameSign_gainsOf ns)] at hsame
    have hgains := exactSum_gainsOf_nonneg ns
    have hlosses := exactSum_lossesOf_nonpos ns
    have hmin : Int64.minValue.toInt = -9223372036854775808 := rfl
    have hmax : Int64.maxValue.toInt = 9223372036854775807 := rfl
    constructor
    · by_contra hnot
      rw [not_or, not_forall] at hnot
      obtain ⟨hpast, n, hn⟩ := hnot
      rw [Classical.not_imp] at hn
      have hloss := exactSum_lossesOf_neg hn.1 (Int.not_le.mp hn.2)
      omega
    · by_contra hnot
      rw [not_or, not_forall] at hnot
      obtain ⟨hpast, n, hn⟩ := hnot
      rw [Classical.not_imp] at hn
      have hgain := exactSum_gainsOf_pos hn.1 (Int.not_le.mp hn.2)
      omega

/-! ## The members of a group in another order -/

section Members

variable {fs : Registry} {arg : Expr}

/-- What a record answers to the argument; a record without an answer counts as nil. -/
def answerTo (fs : Registry) (arg : Expr) (e : Entry) : Value :=
  (arg.eval fs e).toOption.getD .nil

theorem mapM_eval_eq {es : List Entry} (h : ∀ e ∈ es, ∃ v, arg.eval fs e = .ok v) :
    es.mapM (arg.eval fs) = .ok (es.map (answerTo fs arg)) := by
  refine Outcome.mapM_of_ok fun e he => ?_
  obtain ⟨v, hv⟩ := h e he
  rw [answerTo, hv]
  rfl

/-- The integers that a sum reads from the members of a group. -/
def addends (fs : Registry) (arg : Expr) (g : Group) : List Int64 :=
  integersIn (g.members.entries.map (answerTo fs arg))

theorem addends_perm {g g' : Group} (h : g'.members.entries.Perm g.members.entries) :
    (addends fs arg g').Perm (addends fs arg g) :=
  ((h.map _).flatMap_right _).filterMap _

/-- A sum never fails where its argument has a value for every member. -/
theorem eval_sum_members (hsum : fs.Provides .sum) {g : Group}
    (h : ∀ e ∈ g.members.entries, ∃ v, arg.eval fs e = .ok v) (others : List Expr) :
    (Expr.call "sum" (arg :: others)).eval fs (.group g)
      = .ok (.integer (sumClamped (addends fs arg g))) :=
  eval_sum_of_answers hsum (mapM_eval_eq h) others

end Members

/-! ## Main result -/

open Collection

/-- Whatever a collection is sorted by before it is grouped, the groups are those of the
collection as it was, each with its members in some order. -/
theorem exists_groups_of_sorted {fs : Registry} {columns : List Column} {c : Collection}
    {gs : List Group} (keys : List Expr) (h : (Plan.group columns).run fs c = .ok (.groups gs)) :
    ∃ gs' : List Group,
      (Plan.compound [.sort keys, .group columns]).run fs c = .ok (.groups gs')
        ∧ ∀ g' ∈ gs', ∃ g ∈ gs, g'.key = g.key ∧ g'.members.entries.Perm g.members.entries := by
  rw [Plan.run] at h
  obtain ⟨f, hf, hgs⟩ := exists_groupsBy_of_group h
  cases hgs
  have hperm : (c.sorted fs keys).entries.Perm c.entries := by
    rw [entries_sorted]
    exact List.mergeSort_perm _ _
  have hkeys : ∀ e ∈ (c.sorted fs keys).entries, evalColumns fs columns e = .ok (f e) :=
    fun e he => hf e (hperm.mem_iff.mp he)
  refine ⟨groupsBy (headersOf columns) f (c.sorted fs keys), ?_, ?_⟩
  · have hsort : c.sort fs keys = .ok (c.sorted fs keys) := sort_eq fs keys c
    simp only [Plan.run, runAll, hsort, group_of_ok hkeys]
  · intro g' hg'
    obtain ⟨key, hkey, rfl⟩ := List.mem_map.mp hg'
    rw [List.mem_eraseDups, (hperm.map f).mem_iff] at hkey
    refine ⟨_, List.mem_map_of_mem (List.mem_eraseDups.mpr hkey), rfl, ?_⟩
    have hfilter : ∀ c' : Collection, (ofEntries c'.kind
        (c'.entries.filter fun e => f e = key)).entries = c'.entries.filter fun e => f e = key :=
      fun c' => entries_ofEntries (c'.ofKind_entries.sublist List.filter_sublist)
    show (ofEntries _ _).entries.Perm (ofEntries _ _).entries
    rw [hfilter, hfilter]
    exact hperm.filter _

/-- The sum over a group whose members all answer is the sum of the integers among the
elements of the answers, clamped after every addition in the order of the members.  It is the
exact sum, clamped once, however the members are ordered, where no limit can be passed and then
left again, and that cannot be asked for less: it is what has to hold for every order of the
addends.  So where it does, a sort before the grouping does not change a sum. -/
theorem sum_members_orderFree {fs : Registry} (hsum : fs.Provides .sum) (arg : Expr)
    (others : List Expr) :
    (∀ g : Group, (∀ e ∈ g.members.entries, ∃ v, arg.eval fs e = .ok v) →
      (Expr.call "sum" (arg :: others)).eval fs (.group g)
          = .ok (.integer (sumClamped (addends fs arg g)))
        ∧ (OrderFree (addends fs arg g) ↔ ∀ ns : List Int64, ns.Perm (addends fs arg g) →
            sumClamped ns = Int64.ofIntClamp (exactSum (addends fs arg g)))
        ∧ (OrderFree (addends fs arg g) → ∀ g' : Group,
            g'.members.entries.Perm g.members.entries →
              (Expr.call "sum" (arg :: others)).eval fs (.group g')
                = .ok (.integer (Int64.ofIntClamp (exactSum (addends fs arg g))))))
      ∧ ∀ (keys : List Expr) (columns : List Column) (c : Collection) (gs : List Group),
          (Plan.group columns).run fs c = .ok (.groups gs) →
          (∀ g ∈ gs, (∀ e ∈ g.members.entries, ∃ v, arg.eval fs e = .ok v)
            ∧ OrderFree (addends fs arg g)) →
          ∃ gs' : List Group,
            (Plan.compound [.sort keys, .group columns]).run fs c = .ok (.groups gs')
              ∧ ∀ g' ∈ gs', ∃ g ∈ gs, g'.key = g.key
                ∧ (Expr.call "sum" (arg :: others)).eval fs (.group g')
                  = (Expr.call "sum" (arg :: others)).eval fs (.group g) := by
  have hexact : ∀ g g' : Group, (∀ e ∈ g.members.entries, ∃ v, arg.eval fs e = .ok v) →
      OrderFree (addends fs arg g) → g'.members.entries.Perm g.members.entries →
        (Expr.call "sum" (arg :: others)).eval fs (.group g')
          = .ok (.integer (Int64.ofIntClamp (exactSum (addends fs arg g)))) := by
    intro g g' hanswers hfree hperm
    have hanswers' : ∀ e ∈ g'.members.entries, ∃ v, arg.eval fs e = .ok v :=
      fun e he => hanswers e (hperm.mem_iff.mp he)
    rw [eval_sum_members hsum hanswers', (orderFree_iff _).mp hfree _ (addends_perm hperm)]
  constructor
  · intro g hanswers
    exact ⟨eval_sum_members hsum hanswers others, orderFree_iff _,
      fun hfree g' => hexact g g' hanswers hfree⟩
  · intro keys columns c gs hgroup hall
    obtain ⟨gs', hrun, hgroups⟩ := exists_groups_of_sorted keys hgroup
    refine ⟨gs', hrun, fun g' hg' => ?_⟩
    obtain ⟨g, hg, hkey, hperm⟩ := hgroups g' hg'
    obtain ⟨hanswers, hfree⟩ := hall g hg
    refine ⟨g, hg, hkey, ?_⟩
    rw [hexact g g' hanswers hfree hperm, hexact g g hanswers hfree (List.Perm.refl _)]

/-- Rows with a cell under `x`, grouped under one key. -/
def groupOfCells (cells : List String) : Group :=
  .mk ⟨["k"]⟩ [.text "a"] (.rows (cells.map fun x => ⟨⟨["k", "x"]⟩, [.text "a", .text x]⟩))

/-- Every row answers with its cell. -/
theorem eval_groupOfCells {cells : List String} {e : Entry}
    (he : e ∈ (groupOfCells cells).members.entries) :
    ∃ v, (Expr.field "h.x").eval Registry.full e = .ok v := by
  obtain ⟨r, hr, rfl⟩ := List.mem_map.mp he
  obtain ⟨x, -, rfl⟩ := List.mem_map.mp hr
  exact ⟨.text x, rfl⟩

/-- Gains and losses that stay within the limits, and a cell that is no number: the sum is the
exact one in another order too, and behind a sort by the cells. -/
theorem sum_members_withinLimits :
    Registry.full.Provides .sum
      ∧ OrderFree (addends Registry.full (.field "h.x") (groupOfCells ["7", "none", "-9"]))
      ∧ (Expr.call "sum" [.field "h.x"]).eval Registry.full
          (.group (groupOfCells ["-9", "7", "none"])) = .ok (.integer (-2))
      ∧ ∃ gs' : List Group,
          (Plan.compound [.sort [.field "h.x"], .group [⟨"k", .field "h.k"⟩]]).run Registry.full
              (groupOfCells ["7", "none", "-9"]).members = .ok (.groups gs')
            ∧ ∀ g' ∈ gs', (Expr.call "sum" [.field "h.x"]).eval Registry.full (.group g')
              = .ok (.integer (-2)) := by
  have hsum : Registry.full.Provides .sum := Registry.provides_full .sum
  have hfree : OrderFree (addends Registry.full (.field "h.x")
      (groupOfCells ["7", "none", "-9"])) := ⟨Or.inl (by decide), Or.inl (by decide)⟩
  have hperm : (groupOfCells ["-9", "7", "none"]).members.entries.Perm
      (groupOfCells ["7", "none", "-9"]).members.entries := by
    have hcells : ["-9", "7", "none"].Perm ["7", "none", "-9"] := by decide
    exact List.Perm.map Entry.row (hcells.map _)
  have hgroup : (Plan.group [⟨"k", .field "h.k"⟩]).run Registry.full
      (groupOfCells ["7", "none", "-9"]).members
        = .ok (.groups [groupOfCells ["7", "none", "-9"]]) := rfl
  obtain ⟨horder, hsorted⟩ := sum_members_orderFree hsum (.field "h.x") []
  obtain ⟨gs', hrun, hsums⟩ := hsorted [.field "h.x"] _ _ _ hgroup fun g hg => by
    rw [List.mem_singleton.mp hg]
    exact ⟨fun _ => eval_groupOfCells, hfree⟩
  refine ⟨hsum, hfree, (horder _ fun _ => eval_groupOfCells).2.2 hfree _ hperm, gs', hrun, ?_⟩
  intro g' hg'
  obtain ⟨g, hg, -, heq⟩ := hsums g' hg'
  rw [heq, List.mem_singleton.mp hg]
  rfl

/-- A limit is passed and left again: the sum is not the exact one, clamped once, although every
member answers, and in another order of the members it is. -/
theorem sum_members_pastLimit :
    (∀ e ∈ (groupOfCells ["9223372036854775807", "1", "-1"]).members.entries,
        ∃ v, (Expr.field "h.x").eval Registry.full e = .ok v)
      ∧ (Expr.call "sum" [.field "h.x"]).eval Registry.full
          (.group (groupOfCells ["9223372036854775807", "1", "-1"]))
        = .ok (.integer 9223372036854775806)
      ∧ Int64.ofIntClamp (exactSum (addends Registry.full (.field "h.x")
          (groupOfCells ["9223372036854775807", "1", "-1"]))) = 9223372036854775807
      ∧ (Expr.call "sum" [.field "h.x"]).eval Registry.full
          (.group (groupOfCells ["-1", "1", "9223372036854775807"]))
        = .ok (.integer 9223372036854775807) :=
  ⟨fun _ => eval_groupOfCells, rfl, rfl, rfl⟩

end RecordQuery
