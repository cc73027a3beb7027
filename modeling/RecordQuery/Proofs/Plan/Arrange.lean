/-
# Filters and sorts in any order

A filter and a sort make no records; they leave some out and move the others.
However many of them follow one another, in whatever order, the result is that of
one filter and one sort:

    the filter keeps the records for which all the conditions hold
    the sort goes by the keys of the last sort, then by those of the one before
      it, and so on to the first

as long as every condition has an answer for every record that is there at the
beginning.  A condition without an answer would stop the run where it stands, and
whether it is asked at all may depend on the filters before it.

The result of a whole list of such steps is written down in `runAll_arranging`; the
induction is over the steps, with `filter_mergeSort` where a later filter meets the
sort before it and `mergeSort_mergeSort` where two sorts meet.
-/
import RecordQuery.Proofs.Plan.Filter
import RecordQuery.Proofs.Plan.Simplify
import RecordQuery.Proofs.Plan.Sort

namespace RecordQuery

/-- A step that leaves records out or moves them. -/
inductive Arranging where
  | filter (c : Condition)
  | sort (keys : List Expr)

namespace Arranging

/-- The step as a plan. -/
def plan : Arranging → Plan
  | .filter c => .filter c
  | .sort keys => .sort keys

/-- The condition of a filter. -/
def condition? : Arranging → Option Condition
  | .filter c => some c
  | .sort _ => none

/-- The keys of a sort. -/
def keys? : Arranging → Option (List Expr)
  | .filter _ => none
  | .sort keys => some keys

/-- The conditions of all filters. -/
def conditions (steps : List Arranging) : List Condition :=
  steps.filterMap condition?

/-- The keys of all sorts, those of the last sort in front. -/
def keys (steps : List Arranging) : List Expr :=
  (steps.filterMap keys?).reverse.flatten

theorem keys_cons_sort (ks : List Expr) (steps : List Arranging) :
    keys (.sort ks :: steps) = keys steps ++ ks := by
  show (ks :: steps.filterMap keys?).reverse.flatten = _
  rw [List.reverse_cons, List.flatten_append, List.flatten_singleton]
  rfl

end Arranging

open Arranging

/-! ## Conditions that have an answer -/

/-- Is there an answer, and is it that the condition holds? -/
def Condition.holds (fs : Registry) (c : Condition) (e : Entry) : Bool :=
  match c.eval fs e with
  | .ok b => b
  | .error _ => false

/-- Do all the conditions hold for the record? -/
def holdAll (fs : Registry) (conditions : List Condition) (e : Entry) : Bool :=
  conditions.all fun c => c.holds fs e

/-- Every condition has an answer for every record. -/
def Answered (fs : Registry) (conditions : List Condition) (es : List Entry) : Prop :=
  ∀ c ∈ conditions, ∀ e ∈ es, ∃ b, c.eval fs e = .ok b

theorem Condition.eval_of_answered {fs : Registry} {c : Condition} {e : Entry}
    (h : ∃ b, c.eval fs e = .ok b) : c.eval fs e = .ok (c.holds fs e) := by
  obtain ⟨b, hb⟩ := h
  rw [holds, hb]

theorem Answered.subset {fs : Registry} {cs cs' : List Condition} {es es' : List Entry}
    (h : Answered fs cs es) (hcs : cs' ⊆ cs) (hes : es' ⊆ es) : Answered fs cs' es' :=
  fun c hc e he => h c (hcs hc) e (hes he)

theorem holdAll_of_perm {fs : Registry} {cs cs' : List Condition} (h : cs.Perm cs') :
    holdAll fs cs = holdAll fs cs' := by
  funext e
  rw [Bool.eq_iff_iff, holdAll, holdAll, List.all_eq_true, List.all_eq_true]
  constructor
  · intro hall c hc
    exact hall c (h.mem_iff.mpr hc)
  · intro hall c hc
    exact hall c (h.mem_iff.mp hc)

/-! ## Single steps -/

open Collection (OfKind ofEntries kind_ofEntries entries_ofEntries ofEntries_entries)

/-- A filter whose condition has an answer for every record is a filter of lists. -/
theorem run_filter {fs : Registry} {cond : Condition} {k : Kind} {es : List Entry}
    (hkind : OfKind k es) (h : ∀ e ∈ es, ∃ b, cond.eval fs e = .ok b) :
    (Plan.filter cond).run fs (ofEntries k es)
      = .ok (ofEntries k (es.filter (cond.holds fs))) := by
  have hrun : (ofEntries k es).compact (cond.eval fs)
      = .ok (ofEntries (ofEntries k es).kind ((ofEntries k es).entries.filter (cond.holds fs))) := by
    refine Collection.compact_of_ok fun e he => ?_
    rw [entries_ofEntries hkind] at he
    exact Condition.eval_of_answered (h e he)
  rw [kind_ofEntries, entries_ofEntries hkind] at hrun
  rw [Plan.run, hrun]

theorem run_sort (fs : Registry) (ks : List Expr) {k : Kind} {es : List Entry}
    (hkind : OfKind k es) :
    (Plan.sort ks).run fs (ofEntries k es)
      = .ok (ofEntries k (es.mergeSort (keysLe fs ks))) := by
  rw [Plan.run, Collection.sort_eq, kind_ofEntries, entries_ofEntries hkind]

/-! ## Many steps -/

/-- What filters and sorts make of the records: those for which all the conditions
hold, in the order of all the keys. -/
def arranged (fs : Registry) (steps : List Arranging) (es : List Entry) : List Entry :=
  (es.filter (holdAll fs (conditions steps))).mergeSort (keysLe fs (keys steps))

theorem arranged_nil (fs : Registry) (es : List Entry) : arranged fs [] es = es := by
  have hfilter : es.filter (holdAll fs (conditions [])) = es :=
    List.filter_eq_self.mpr fun _ _ => rfl
  rw [arranged, hfilter]
  exact List.mergeSort_of_pairwise (List.pairwise_of_forall fun _ _ => rfl)

theorem arranged_cons_filter (fs : Registry) (cond : Condition) (steps : List Arranging)
    (es : List Entry) :
    arranged fs (.filter cond :: steps) es
      = arranged fs steps (es.filter (cond.holds fs)) := by
  have hfilter : (es.filter (cond.holds fs)).filter (holdAll fs (conditions steps))
      = es.filter (holdAll fs (conditions (.filter cond :: steps))) := by
    rw [List.filter_filter]
    refine List.filter_congr fun e _ => ?_
    exact Bool.and_comm _ _
  rw [arranged, arranged, hfilter]
  rfl

theorem arranged_cons_sort (fs : Registry) (ks : List Expr) (steps : List Arranging)
    (es : List Entry) :
    arranged fs (.sort ks :: steps) es
      = arranged fs steps (es.mergeSort (keysLe fs ks)) := by
  have hlex : TotalPreorder (lex (keysLe fs (keys steps)) (keysLe fs ks)) := by
    rw [← keysLe_append]
    exact totalPreorder_keysLe fs _
  rw [arranged, arranged, keys_cons_sort, keysLe_append,
    filter_mergeSort (totalPreorder_keysLe fs ks),
    mergeSort_mergeSort (totalPreorder_keysLe fs _) (totalPreorder_keysLe fs ks) hlex]
  rfl

/-- The steps one after the other, by induction: each leaves records of the same
kind, all among those that were there. -/
theorem runAll_arranging {fs : Registry} {k : Kind} :
    ∀ {steps : List Arranging} {es : List Entry}, OfKind k es →
      Answered fs (conditions steps) es →
        runAll fs (steps.map plan) (ofEntries k es) = .ok (ofEntries k (arranged fs steps es))
  | [], es, _, _ => by
      rw [arranged_nil]
      rfl
  | .filter cond :: steps, es, hkind, h => by
      have hsub : (es.filter (cond.holds fs)).Sublist es := List.filter_sublist
      have hrun := run_filter hkind (h cond List.mem_cons_self)
      have hrest := runAll_arranging (hkind.sublist hsub)
        (h.subset (List.subset_cons_self cond _) hsub.subset)
      rw [List.map_cons, runAll, plan, hrun, arranged_cons_filter]
      exact hrest
  | .sort ks :: steps, es, hkind, h => by
      have hsub : es.mergeSort (keysLe fs ks) ⊆ es := (List.mergeSort_perm es _).subset
      have hrun := run_sort fs ks hkind
      have hanswered : Answered fs (conditions steps) (es.mergeSort (keysLe fs ks)) :=
        h.subset (List.Subset.refl _) hsub
      have hrest := runAll_arranging (fun e he => hkind e (hsub he)) hanswered
      rw [List.map_cons, runAll, plan, hrun, arranged_cons_sort]
      exact hrest

/-- The same conditions in another order, and the same keys: the same result. -/
theorem runAll_arranging_congr {fs : Registry} {steps steps' : List Arranging} {c : Collection}
    (h : Answered fs (conditions steps) c.entries)
    (hconditions : (conditions steps).Perm (conditions steps')) (hkeys : keys steps = keys steps') :
    runAll fs (steps.map plan) c = runAll fs (steps'.map plan) c := by
  have hsteps := runAll_arranging c.ofKind_entries h
  have hsteps' := runAll_arranging c.ofKind_entries
    (h.subset hconditions.symm.subset (List.Subset.refl _))
  rw [ofEntries_entries] at hsteps hsteps'
  rw [hsteps, hsteps', arranged, arranged, holdAll_of_perm hconditions, hkeys]

/-- Filters and sorts in any order are one filter and one sort.  So filters may
change places with filters and sorts, and sorting by some keys and then by others
is sorting by the others first. -/
theorem run_arranging_eq_filter_sort (fs : Registry) (c : Collection) :
    (∀ steps : List Arranging, Answered fs (conditions steps) c.entries →
      ∃ kept : Collection, c.compact (fun e => .ok (holdAll fs (conditions steps) e)) = .ok kept
        ∧ kept.kind = c.kind
        ∧ kept.entries = c.entries.filter (holdAll fs (conditions steps))
        ∧ (Plan.compound (steps.map plan)).run fs c = (Plan.sort (keys steps)).run fs kept)
    ∧ (∀ a b : Condition, Answered fs [a, b] c.entries →
        (Plan.compound [.filter a, .filter b]).run fs c
          = (Plan.compound [.filter b, .filter a]).run fs c)
    ∧ (∀ (a : Condition) (ks : List Expr), Answered fs [a] c.entries →
        (Plan.compound [.filter a, .sort ks]).run fs c
          = (Plan.compound [.sort ks, .filter a]).run fs c)
    ∧ ∀ ks ks' : List Expr,
        (Plan.sort (ks ++ ks')).run fs c = (Plan.compound [.sort ks', .sort ks]).run fs c := by
  refine ⟨?_, ?_, ?_, ?_⟩
  · intro steps h
    have hrun := runAll_arranging c.ofKind_entries h
    rw [ofEntries_entries] at hrun
    have hkind : OfKind c.kind (c.entries.filter (holdAll fs (conditions steps))) :=
      c.ofKind_entries.sublist List.filter_sublist
    refine ⟨_, Collection.compact_of_ok fun _ _ => rfl, kind_ofEntries _ _,
      entries_ofEntries hkind, ?_⟩
    rw [Plan.run, hrun, run_sort fs _ hkind]
    rfl
  · intro a b h
    exact @runAll_arranging_congr fs [.filter a, .filter b] [.filter b, .filter a] c h
      (List.Perm.swap b a []) rfl
  · intro a ks h
    exact @runAll_arranging_congr fs [.filter a, .sort ks] [.sort ks, .filter a] c h
      (List.Perm.refl _) rfl
  · intro ks ks'
    have hone : runAll fs [.sort (ks ++ ks')] c = runAll fs [.sort ks', .sort ks] c :=
      @runAll_arranging_congr fs [.sort (ks ++ ks')] [.sort ks', .sort ks] c
        (fun _ h => absurd h List.not_mem_nil) (List.Perm.refl _) (by simp [keys, keys?])
    rwa [runAll_singleton] at hone

/-- Three rows under two headers. -/
def threeRows : Collection :=
  .rows [⟨⟨["n", "m"]⟩, [.text "2", .text "x"]⟩, ⟨⟨["n", "m"]⟩, [.text "1", .text "y"]⟩,
    ⟨⟨["n", "m"]⟩, [.text "1", .text "x"]⟩]

/-- The cells under `m` other than `y`. -/
def notY : Condition :=
  .not (.compare .equals (.field "m") (.literal "y"))

/-- The cells under `n` that are `1`. -/
def isOne : Condition :=
  .compare .equals (.field "n") (.literal "1")

/-- A filter between two sorts, and the single exchanges, on three rows. -/
theorem run_arranging_threeRows :
    Answered .empty [isOne, notY] threeRows.entries
    ∧ (∃ kept : Collection, kept.entries = threeRows.entries.filter (holdAll .empty [notY])
        ∧ (Plan.compound [.sort [.field "m"], .filter notY, .sort [.field "n"]]).run .empty threeRows
          = (Plan.sort [.field "n", .field "m"]).run .empty kept)
    ∧ (Plan.compound [.filter isOne, .filter notY]).run .empty threeRows
        = (Plan.compound [.filter notY, .filter isOne]).run .empty threeRows
    ∧ (Plan.compound [.filter isOne, .sort [.field "m"]]).run .empty threeRows
        = (Plan.compound [.sort [.field "m"], .filter isOne]).run .empty threeRows := by
  have hrows : ∀ e ∈ threeRows.entries, (∃ b, isOne.eval .empty e = .ok b)
      ∧ ∃ b, notY.eval .empty e = .ok b := by
    intro e he
    rcases List.mem_cons.mp he with rfl | he
    · exact ⟨⟨_, rfl⟩, _, rfl⟩
    rcases List.mem_cons.mp he with rfl | he
    · exact ⟨⟨_, rfl⟩, _, rfl⟩
    rcases List.mem_cons.mp he with rfl | he
    · exact ⟨⟨_, rfl⟩, _, rfl⟩
    · exact absurd he List.not_mem_nil
  have h : Answered .empty [isOne, notY] threeRows.entries := by
    intro c hc e he
    rcases List.mem_cons.mp hc with rfl | hc
    · exact (hrows e he).1
    · rw [List.mem_singleton.mp hc]
      exact (hrows e he).2
  obtain ⟨hall, hfilters, hsort, -⟩ := run_arranging_eq_filter_sort .empty threeRows
  obtain ⟨kept, -, -, hkept, hrun⟩ :=
    hall [.sort [.field "m"], .filter notY, .sort [.field "n"]]
      (h.subset (List.subset_cons_self isOne [notY]) (List.Subset.refl _))
  refine ⟨h, ⟨kept, hkept, hrun⟩, hfilters isOne notY h, hsort isOne [.field "m"] ?_⟩
  exact h.subset (List.cons_subset_cons isOne (List.nil_subset [notY])) (List.Subset.refl _)

end RecordQuery
