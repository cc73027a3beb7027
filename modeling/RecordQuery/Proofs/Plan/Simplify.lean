/-
# Simplifying a plan changes its shape only

A plan is a tree, and what it does is done by its leaves.  `steps` lists them from
left to right, and everything about `simplify` follows from two facts:

    run         running a plan is running its steps one after the other
    shape       the simplified plan is `ofParts` of the steps

The second is the structural induction: what a plan contributes to a compound
around it, once simplified, is exactly its steps (`parts_simplify`).  So two plans
with the same steps have the same simplified form, which is flat and simplifies to
itself.

A run that fails stops at the failing leaf.  `runAll_append` says so for a list of
plans cut anywhere: an error of the first half is the error of the whole.
-/
import RecordQuery.Query.Execute

namespace RecordQuery

namespace Plan

/-! ## The steps of a plan -/

mutual

/-- The steps of a plan from left to right. -/
def steps : Plan → List Plan
  | .compound plans => stepsOf plans
  | .filter c => [.filter c]
  | .table cs => [.table cs]
  | .group cs => [.group cs]
  | .sort ks => [.sort ks]

/-- The steps of several plans, one after the other. -/
def stepsOf : List Plan → List Plan
  | [] => []
  | p :: ps => p.steps ++ stepsOf ps

end

/-- Is the plan a single step? -/
def isStep : Plan → Bool
  | .compound _ => false
  | .filter _ | .table _ | .group _ | .sort _ => true

theorem steps_of_isStep {p : Plan} (h : p.isStep = true) : p.steps = [p] := by
  cases p with
  | compound ps => cases h
  | filter c => rfl
  | table cs => rfl
  | group cs => rfl
  | sort ks => rfl

mutual

/-- No step is a compound. -/
theorem isStep_of_mem_steps : ∀ {p q : Plan}, q ∈ p.steps → q.isStep = true
  | .compound _, _, h => isStep_of_mem_stepsOf h
  | .filter _, _, h => by rw [List.mem_singleton.mp h]; rfl
  | .table _, _, h => by rw [List.mem_singleton.mp h]; rfl
  | .group _, _, h => by rw [List.mem_singleton.mp h]; rfl
  | .sort _, _, h => by rw [List.mem_singleton.mp h]; rfl

theorem isStep_of_mem_stepsOf : ∀ {ps : List Plan} {q : Plan}, q ∈ stepsOf ps → q.isStep = true
  | [], _, h => absurd h List.not_mem_nil
  | _ :: _, _, h => by
      rcases List.mem_append.mp h with h | h
      · exact isStep_of_mem_steps h
      · exact isStep_of_mem_stepsOf h

end

theorem stepsOf_of_isStep : ∀ {ps : List Plan}, (∀ p ∈ ps, p.isStep = true) → stepsOf ps = ps
  | [], _ => rfl
  | p :: ps, h => by
      have hps : stepsOf ps = ps :=
        stepsOf_of_isStep fun q hq => h q (List.mem_cons_of_mem _ hq)
      rw [stepsOf, steps_of_isStep (h p List.mem_cons_self), hps, List.singleton_append]

theorem stepsOf_filters (cs : List Condition) : stepsOf (cs.map filter) = cs.map filter := by
  refine stepsOf_of_isStep fun p hp => ?_
  obtain ⟨c, -, rfl⟩ := List.mem_map.mp hp
  rfl

theorem stepsOf_append (ps qs : List Plan) : stepsOf (ps ++ qs) = stepsOf ps ++ stepsOf qs := by
  induction ps with
  | nil => rfl
  | cons p ps ih => rw [List.cons_append, stepsOf, stepsOf, ih, List.append_assoc]

/-! ## The simplified plan has the same steps -/

/-- The steps of a plan made of parts are the steps of the parts. -/
theorem steps_ofParts (ps : List Plan) : (ofParts ps).steps = stepsOf ps := by
  unfold ofParts
  split
  · rename_i p
    rw [stepsOf, stepsOf, List.append_nil]
  · rfl

/-- What several steps make contributes those steps. -/
theorem parts_ofParts {ps : List Plan} (h : ∀ p ∈ ps, p.isStep = true) :
    (ofParts ps).parts = ps := by
  unfold ofParts
  split
  · rename_i p
    have hp : p.isStep = true := h p List.mem_cons_self
    cases p with
    | compound qs => cases hp
    | filter c => rfl
    | table cs => rfl
    | group cs => rfl
    | sort ks => rfl
  · rfl

mutual

/-- Once simplified, a plan contributes its steps to a compound around it. -/
theorem parts_simplify : ∀ p : Plan, p.simplify.parts = p.steps
  | .compound ps => by
      rw [simplify, simplifiedParts_eq ps, steps]
      exact parts_ofParts fun _ hq => isStep_of_mem_stepsOf hq
  | .filter _ => rfl
  | .table _ => rfl
  | .group _ => rfl
  | .sort _ => rfl

theorem simplifiedParts_eq : ∀ ps : List Plan, simplifiedParts ps = stepsOf ps
  | [] => rfl
  | p :: ps => by rw [simplifiedParts, parts_simplify p, simplifiedParts_eq ps, stepsOf]

end

/-- The simplified plan is made of the steps of the plan, whatever its shape was. -/
theorem simplify_eq_ofParts_steps (p : Plan) : p.simplify = ofParts p.steps := by
  cases p with
  | compound ps => rw [simplify, simplifiedParts_eq, steps]
  | filter c => rfl
  | table cs => rfl
  | group cs => rfl
  | sort ks => rfl

theorem steps_simplify (p : Plan) : p.simplify.steps = p.steps := by
  rw [simplify_eq_ofParts_steps, steps_ofParts]
  exact stepsOf_of_isStep fun _ hq => isStep_of_mem_steps hq

/-- Plans with the same steps have the same simplified form. -/
theorem simplify_eq_of_steps_eq {p q : Plan} (h : p.steps = q.steps) :
    p.simplify = q.simplify := by
  rw [simplify_eq_ofParts_steps, simplify_eq_ofParts_steps, h]

/-- A part of a compound may be simplified before the compound is. -/
theorem stepsOf_map_simplify (ps : List Plan) :
    stepsOf (ps.map simplify) = stepsOf ps := by
  induction ps with
  | nil => rfl
  | cons p ps ih => rw [List.map_cons, stepsOf, stepsOf, steps_simplify, ih]

/-! ## The simplified plan is flat -/

/-- No compound inside a compound, and no compound of exactly one part. -/
inductive Flat : Plan → Prop
  | step {p : Plan} : p.isStep = true → Flat p
  | compound {ps : List Plan} : (∀ p ∈ ps, p.isStep = true) → ps.length ≠ 1 → Flat (.compound ps)

theorem flat_ofParts {ps : List Plan} (h : ∀ p ∈ ps, p.isStep = true) : Flat (ofParts ps) := by
  unfold ofParts
  split
  · exact .step (h _ List.mem_cons_self)
  · rename_i hne
    refine .compound h fun hlength => ?_
    obtain ⟨p, rfl⟩ := List.length_eq_one_iff.mp hlength
    exact hne p rfl

theorem flat_simplify (p : Plan) : Flat p.simplify := by
  rw [simplify_eq_ofParts_steps]
  exact flat_ofParts fun _ hq => isStep_of_mem_steps hq

end Plan

/-! ## Running the steps -/

/-- Plans in a row: the second half gets what the first half gives, or is not run. -/
theorem runAll_append (fs : Registry) (ps qs : List Plan) (c : Collection) :
    runAll fs (ps ++ qs) c = (runAll fs ps c).bind (runAll fs qs) := by
  induction ps generalizing c with
  | nil => rfl
  | cons p ps ih =>
      rw [List.cons_append, runAll, runAll]
      cases p.run fs c with
      | error err => rfl
      | ok c' => exact ih c'

theorem runAll_singleton (fs : Registry) (p : Plan) (c : Collection) :
    runAll fs [p] c = p.run fs c := by
  rw [runAll]
  cases p.run fs c with
  | error err => rfl
  | ok c' => rfl

mutual

/-- Running a plan is running its steps one after the other. -/
theorem runAll_steps (fs : Registry) : ∀ (p : Plan) (c : Collection),
    runAll fs p.steps c = p.run fs c
  | .compound ps, c => by rw [Plan.steps, runAll_stepsOf fs ps c, Plan.run]
  | .filter _, c => runAll_singleton fs _ c
  | .table _, c => runAll_singleton fs _ c
  | .group _, c => runAll_singleton fs _ c
  | .sort _, c => runAll_singleton fs _ c

theorem runAll_stepsOf (fs : Registry) : ∀ (ps : List Plan) (c : Collection),
    runAll fs (Plan.stepsOf ps) c = runAll fs ps c
  | [], _ => rfl
  | p :: ps, c => by
      rw [Plan.stepsOf, runAll_append, runAll_steps fs p c, runAll]
      cases p.run fs c with
      | error err => rfl
      | ok c' => exact runAll_stepsOf fs ps c'

end

/-- Plans with the same steps do the same. -/
theorem run_eq_of_steps_eq {fs : Registry} {p q : Plan} (h : p.steps = q.steps)
    (c : Collection) : p.run fs c = q.run fs c := by
  rw [← runAll_steps, ← runAll_steps, h]

/-- The simplified plan gives the same collection or the same error on every
collection; it is flat, it has the same steps in the same order, and there is nothing
left to simplify in it. -/
theorem run_simplify_flat_steps (fs : Registry) (p : Plan) :
    (∀ c : Collection, p.simplify.run fs c = p.run fs c)
      ∧ p.simplify.Flat
      ∧ p.simplify.steps = p.steps
      ∧ p.simplify.simplify = p.simplify := by
  have hsteps : p.simplify.steps = p.steps := Plan.steps_simplify p
  refine ⟨fun c => run_eq_of_steps_eq hsteps c, Plan.flat_simplify p, hsteps, ?_⟩
  exact Plan.simplify_eq_of_steps_eq hsteps

end RecordQuery
