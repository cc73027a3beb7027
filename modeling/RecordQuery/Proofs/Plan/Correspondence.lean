/-
# Two runs side by side

Two plans that differ in the keys of their fields alone are run on two collections that
differ in their rows alone.  As long as what corresponds answers alike, no step can tell the
runs apart:

    filter    keeps records at the same places
    sort      has the same keys to compare, and puts the records in the same order
    group     has the same keys of groups, and the members of groups correspond
    table     has the same values, so here the two runs give one and the same collection

`Plan.run_alike` is the step and `runAll_alike` the run: the collections correspond to the
end.  A step that stops the one run stops the other, with an error that corresponds.

A registered function may look at its record as it likes, and then tell the runs apart.  The
functions of a registry that is `RunsAlike` do not, and the functions of the language are such
(`runsAlike_ofBuiltins`): all that they have of a record is its members and what the arguments
answer.
-/
import RecordQuery.Proofs.Plan.Filter
import RecordQuery.Proofs.Plan.Group
import RecordQuery.Proofs.Plan.Simplify
import RecordQuery.Proofs.Plan.Sort
import RecordQuery.Proofs.Record.Correspondence
import RecordQuery.Query.Builtin

namespace RecordQuery

variable {K : String → String → Prop}

/-! ## Expressions and steps up to their keys -/

/-- The expressions are the same up to the keys of their fields, which correspond. -/
inductive Expr.Corresponds (K : String → String → Prop) : Expr → Expr → Prop
  | literal (text : String) : Expr.Corresponds K (.literal text) (.literal text)
  | field {key key' : String} : K key key' → Expr.Corresponds K (.field key) (.field key')
  | call {function : String} {args args' : List Expr} :
      List.Forall₂ (Expr.Corresponds K) args args' →
      Expr.Corresponds K (.call function args) (.call function args')

/-- The induction over an expression and the arguments of its calls. -/
theorem Expr.Corresponds.induct {P : Expr → Expr → Prop}
    (literal : ∀ text : String, P (.literal text) (.literal text))
    (field : ∀ key key' : String, K key key' → P (.field key) (.field key'))
    (call : ∀ (function : String) (args args' : List Expr), List.Forall₂ P args args' →
      P (.call function args) (.call function args'))
    {x x' : Expr} (h : x.Corresponds K x') : P x x' :=
  @Expr.Corresponds.rec K (fun x x' _ => P x x') (fun xs xs' _ => List.Forall₂ P xs xs')
    literal (fun hkey => field _ _ hkey) (fun _ ih => call _ _ _ ih) .nil
    (fun _ _ hx hxs => .cons hx hxs) x x' h

mutual

/-- The keys of the fields in an expression, at any depth. -/
def Expr.keys : Expr → List String
  | .literal _ => []
  | .field key => [key]
  | .call _ args => keysOfArgs args

/-- The keys of the fields in several expressions. -/
def keysOfArgs : List Expr → List String
  | [] => []
  | x :: xs => x.keys ++ keysOfArgs xs

end

mutual

theorem Expr.corresponds_self : ∀ {x : Expr}, (∀ key ∈ x.keys, K key key) → x.Corresponds K x
  | .literal text, _ => .literal text
  | .field key, h => .field (h key List.mem_cons_self)
  | .call _ _, h => .call (args_correspond_self h)

theorem args_correspond_self : ∀ {xs : List Expr}, (∀ key ∈ keysOfArgs xs, K key key) →
    List.Forall₂ (Expr.Corresponds K) xs xs
  | [], _ => .nil
  | _ :: _, h =>
      .cons (Expr.corresponds_self fun key hkey => h key (List.mem_append_left _ hkey))
        (args_correspond_self fun key hkey => h key (List.mem_append_right _ hkey))

end

/-- The conditions are the same up to the keys of the fields compared. -/
inductive Condition.Corresponds (K : String → String → Prop) : Condition → Condition → Prop
  | not {c c' : Condition} : c.Corresponds K c' → Condition.Corresponds K (.not c) (.not c')
  | compare {op : Comparison} {lhs lhs' rhs rhs' : Expr} : lhs.Corresponds K lhs' →
      rhs.Corresponds K rhs' → Condition.Corresponds K (.compare op lhs rhs) (.compare op lhs' rhs')

/-- The columns have one name, and expressions that are the same up to their keys. -/
structure Column.Corresponds (K : String → String → Prop) (column column' : Column) : Prop where
  name_eq : column.name = column'.name
  expr : column.expr.Corresponds K column'.expr

/-- The steps are the same up to the keys of their fields. -/
inductive Plan.StepCorresponds (K : String → String → Prop) : Plan → Plan → Prop
  | filter {c c' : Condition} : c.Corresponds K c' → Plan.StepCorresponds K (.filter c) (.filter c')
  | table {columns columns' : List Column} : List.Forall₂ (Column.Corresponds K) columns columns' →
      Plan.StepCorresponds K (.table columns) (.table columns')
  | group {columns columns' : List Column} : List.Forall₂ (Column.Corresponds K) columns columns' →
      Plan.StepCorresponds K (.group columns) (.group columns')
  | sort {keys keys' : List Expr} : List.Forall₂ (Expr.Corresponds K) keys keys' →
      Plan.StepCorresponds K (.sort keys) (.sort keys')

theorem Column.names_eq {columns columns' : List Column}
    (h : List.Forall₂ (Column.Corresponds K) columns columns') :
    columns.map Column.name = columns'.map Column.name := by
  induction h with
  | nil => rfl
  | cons hcolumn _ ih => rw [List.map_cons, List.map_cons, hcolumn.name_eq, ih]

/-! ## Lists of records that correspond -/

variable {R : Row → Row → Prop} {E : EvalError → EvalError → Prop}

/-- The readings answer alike for records that correspond. -/
def Reading.Alike (R : Row → Row → Prop) (E : EvalError → EvalError → Prop)
    (read read' : Reading) : Prop :=
  ∀ e e' : Entry, e.Corresponds R e' → Outcome.Alike E Eq (read e) (read' e')

section Functions

variable {args args' : List Reading} {e e' : Entry}

theorem alike_countMembers (hargs : List.Forall₂ (Reading.Alike R E) args args')
    {c c' : Collection} (hc : c.Corresponds R c') :
    Outcome.Alike E Eq (countMembers c args) (countMembers c' args') := by
  cases hargs with
  | nil => exact .ok (congrArg Value.ofSize (Collection.size_eq_of_entries hc.entries))
  | cons harg _ =>
      refine (Outcome.Alike.mapM_eq hc.entries harg).bind ?_
      rintro vs _ rfl
      exact .ok rfl

theorem alike_sumMembers {arg arg' : Reading} (harg : arg.Alike R E arg')
    {c c' : Collection} (hc : c.Corresponds R c') :
    Outcome.Alike E Eq (sumMembers c arg) (sumMembers c' arg') := by
  refine (Outcome.Alike.mapM_eq hc.entries harg).bind ?_
  rintro vs _ rfl
  exact .ok rfl

theorem alike_datePart (hE : ∀ err, E err err)
    (hargs : List.Forall₂ (Reading.Alike R E) args args') (he : e.Corresponds R e')
    (function : Builtin) (part : Moment → Int) :
    Outcome.Alike E Eq (datePart function part args e) (datePart function part args' e') := by
  cases hargs with
  | nil => exact .error (hE _)
  | cons harg hrest =>
      cases hrest with
      | nil =>
          refine (harg e e' he).bind ?_
          rintro v _ rfl
          exact Outcome.Alike.refl hE _
      | cons _ _ => exact .error (hE _)

/-- The name that a call of `as` gives, if it gives one, is taken from no record. -/
theorem alike_givenName (hargs : List.Forall₂ (Reading.Alike R E) args args') :
    givenName args = none ∧ givenName args' = none
      ∨ ∃ x x', givenName args = some x ∧ givenName args' = some x' ∧ Outcome.Alike E Eq x x' := by
  cases hargs with
  | nil => exact Or.inl ⟨rfl, rfl⟩
  | cons _ hrest =>
      cases hrest with
      | nil => exact Or.inl ⟨rfl, rfl⟩
      | cons hname _ => exact Or.inr ⟨_, _, rfl, rfl, hname .blank .blank .blank⟩

theorem alike_rename (hE : ∀ err, E err err)
    (hargs : List.Forall₂ (Reading.Alike R E) args args') (he : e.Corresponds R e') :
    Outcome.Alike E Eq (Builtin.run .rename args e) (Builtin.run .rename args' e') := by
  have hname := alike_givenName hargs
  unfold Builtin.run
  dsimp only
  cases hargs with
  | nil => exact .error (hE _)
  | cons hvalue _ =>
      dsimp only
      rcases hname with ⟨hnone, hnone'⟩ | ⟨x, x', hx, hx', halike⟩
      · rw [hnone, hnone']
        exact hvalue e e' he
      · rw [hx, hx']
        cases halike with
        | error herr => exact .error herr
        | @ok v _ hv =>
            subst hv
            cases v with
            | text s => exact hvalue e e' he
            | integer n => exact .error (hE _)
            | list vs => exact .error (hE _)
            | nil => exact .error (hE _)

/-- A call with arguments that answer alike answers alike. -/
theorem Builtin.run_alike (hE : ∀ err, E err err) (b : Builtin)
    (hargs : List.Forall₂ (Reading.Alike R E) args args') :
    (b.run args).Alike R E (b.run args') := by
  intro e e' he
  cases b with
  | count =>
      cases he with
      | row _ => exact .ok rfl
      | blank => exact .ok rfl
      | group _ _ hmembers => exact alike_countMembers hargs hmembers
  | sum =>
      cases hargs with
      | nil => exact .error (hE _)
      | cons harg _ =>
          cases he with
          | row _ => exact .ok rfl
          | blank => exact .ok rfl
          | group _ _ hmembers => exact alike_sumMembers harg hmembers
  | rename => exact alike_rename hE hargs he
  | year => exact alike_datePart hE hargs he _ _
  | month => exact alike_datePart hE hargs he _ _

end Functions

/-- The function cannot tell records apart that correspond, when its arguments do not. -/
def Function.RunsAlike (R : Row → Row → Prop) (E : EvalError → EvalError → Prop)
    (f : Function) : Prop :=
  ∀ {args args' : List Arg},
    List.Forall₂ (Reading.Alike R E) (args.map Arg.read) (args'.map Arg.read) →
      (f.run args).Alike R E (f.run args')

/-- No function of the registry tells apart what corresponds. -/
def Registry.RunsAlike (R : Row → Row → Prop) (E : EvalError → EvalError → Prop)
    (fs : Registry) : Prop :=
  ∀ {name : String} {f : Function}, fs.find? name = some f → f.RunsAlike R E

theorem Registry.runsAlike_ofBuiltins (hE : ∀ err, E err err) (bs : List Builtin) :
    (Registry.ofBuiltins bs).RunsAlike R E := by
  intro name f hfind
  obtain ⟨b, -, rfl⟩ := exists_of_find?_ofBuiltins hfind
  exact b.run_alike hE

/-! ## Expressions -/

namespace AnswerAlike

variable {fs : Registry} {e e' : Entry}

theorem eval_alike (h : AnswerAlike R K E) (hfs : fs.RunsAlike R E) {x x' : Expr} (hx : x.Corresponds K x') :
    (x.eval fs).Alike R E (x'.eval fs) := by
  refine Expr.Corresponds.induct (P := fun x x' => (x.eval fs).Alike R E (x'.eval fs)) ?_ ?_ ?_ hx
  · exact fun _ _ _ _ => .ok rfl
  · exact fun key key' hkey e e' he => h.get_alike he key key' hkey
  · intro function args args' hargs
    have hreadings : List.Forall₂ (Reading.Alike R E) ((evalArgs fs args).map Arg.read)
        ((evalArgs fs args').map Arg.read) := by
      rw [map_read_evalArgs, map_read_evalArgs, List.forall₂_map_left_iff,
        List.forall₂_map_right_iff]
      exact hargs
    rw [Expr.eval, Expr.eval]
    cases hfind : fs.find? function with
    | none => exact fun _ _ _ => .error (h.refl _)
    | some f => exact hfs hfind hreadings

theorem evalArgs_alike (h : AnswerAlike R K E) (hfs : fs.RunsAlike R E) {args args' : List Expr}
    (hargs : List.Forall₂ (Expr.Corresponds K) args args') :
    List.Forall₂ (Reading.Alike R E) ((evalArgs fs args).map Arg.read)
      ((evalArgs fs args').map Arg.read) := by
  rw [map_read_evalArgs, map_read_evalArgs]
  exact List.rel_map (fun _ _ harg => h.eval_alike hfs harg) hargs

theorem eval_condition_alike (h : AnswerAlike R K E) (hfs : fs.RunsAlike R E) {c c' : Condition} (hc : c.Corresponds K c')
    (he : e.Corresponds R e') : Outcome.Alike E Eq (c.eval fs e) (c'.eval fs e') := by
  induction hc with
  | not _ ih => exact ih.map fun _ _ hb => congrArg (!·) hb
  | compare hl hr =>
      refine (h.eval_alike hfs hl e e' he).bind ?_
      rintro l _ rfl
      refine (h.eval_alike hfs hr e e' he).bind ?_
      rintro r _ rfl
      exact .ok rfl

theorem evalColumns_alike (h : AnswerAlike R K E) (hfs : fs.RunsAlike R E) {columns columns' : List Column}
    (hcolumns : List.Forall₂ (Column.Corresponds K) columns columns') (he : e.Corresponds R e') :
    Outcome.Alike E Eq (evalColumns fs columns e) (evalColumns fs columns' e') :=
  Outcome.Alike.mapM_eq hcolumns fun _ _ hcolumn => h.eval_alike hfs hcolumn.expr e e' he

theorem evalKeys_eq (h : AnswerAlike R K E) (hfs : fs.RunsAlike R E) {keys keys' : List Expr}
    (hkeys : List.Forall₂ (Expr.Corresponds K) keys keys') (he : e.Corresponds R e') :
    evalKeys fs keys e = evalKeys fs keys' e' := by
  unfold evalKeys
  induction hkeys with
  | nil => rfl
  | @cons key key' keys keys' hkey _ ih =>
      have halike : Outcome.Alike E Eq (key.eval fs e) (key'.eval fs e') :=
        h.eval_alike hfs hkey e e' he
      rw [List.map_cons, List.map_cons, ih]
      generalize key.eval fs e = x at halike ⊢
      generalize key'.eval fs e' = y at halike ⊢
      cases halike with
      | ok hv => rw [hv]
      | error _ => rfl

end AnswerAlike

/-! ## One step -/

namespace Collection

variable {c c' : Collection} {es es' : List Entry}

theorem keepEach_alike {keep keep' : Entry → Except EvalError Bool}
    (hkeep : ∀ e e' : Entry, e.Corresponds R e' → Outcome.Alike E Eq (keep e) (keep' e'))
    (h : List.Forall₂ (Entry.Corresponds R) es es') :
    Outcome.Alike E (List.Forall₂ (Entry.Corresponds R)) (keepEach keep es) (keepEach keep' es') := by
  induction h with
  | nil => exact .ok .nil
  | @cons e e' es es' he _ ih =>
      have halike : Outcome.Alike E Eq (keep e) (keep' e') := hkeep e e' he
      rw [keepEach, keepEach]
      generalize keep e = x at halike ⊢
      generalize keep' e' = y at halike ⊢
      cases halike with
      | error herr => exact .error herr
      | @ok b _ hb =>
          subst hb
          cases b with
          | true => exact ih.map fun _ _ hkept => .cons he hkept
          | false => exact ih

theorem compact_alike {keep keep' : Entry → Except EvalError Bool}
    (hkeep : ∀ e e' : Entry, e.Corresponds R e' → Outcome.Alike E Eq (keep e) (keep' e'))
    (hc : c.Corresponds R c') :
    Outcome.Alike E (Collection.Corresponds R) (c.compact keep) (c'.compact keep') := by
  rw [compact_eq, compact_eq, ← hc.kind_eq]
  exact (keepEach_alike hkeep hc.entries).map fun _ _ hkept => corresponds_ofEntries hkept c.kind

theorem filter_hasKey {keyOf keyOf' : Entry → Except EvalError (List Value)}
    (hkeys : ∀ e e' : Entry, e.Corresponds R e' → Outcome.Alike E Eq (keyOf e) (keyOf' e'))
    (h : List.Forall₂ (Entry.Corresponds R) es es') (key : List Value) :
    List.Forall₂ (Entry.Corresponds R) (es.filter (hasKey keyOf key))
      (es'.filter (hasKey keyOf' key)) := by
  induction h with
  | nil => exact .nil
  | @cons e e' es es' he _ ih =>
      have hsame : hasKey keyOf key e = hasKey keyOf' key e' := by
        rw [hasKey, hasKey, (hkeys e e' he).toOption_eq]
      rw [List.filter_cons, List.filter_cons, ← hsame]
      split
      · exact .cons he ih
      · exact ih

theorem keysSeen_eq {keyOf keyOf' : Entry → Except EvalError (List Value)}
    (hkeys : ∀ e e' : Entry, e.Corresponds R e' → Outcome.Alike E Eq (keyOf e) (keyOf' e'))
    (h : List.Forall₂ (Entry.Corresponds R) es es') : keysSeen keyOf es = keysSeen keyOf' es' := by
  have hall : es.map (fun e => (keyOf e).toOption) = es'.map fun e => (keyOf' e).toOption := by
    induction h with
    | nil => rfl
    | cons he _ ih => rw [List.map_cons, List.map_cons, ih, (hkeys _ _ he).toOption_eq]
  have hids := congrArg (List.filterMap id) hall
  rw [List.filterMap_map, List.filterMap_map] at hids
  exact congrArg List.eraseDups hids

variable {fs : Registry}

theorem group_alike (h : AnswerAlike R K E) (hfs : fs.RunsAlike R E) {columns columns' : List Column}
    (hcolumns : List.Forall₂ (Column.Corresponds K) columns columns') (hc : c.Corresponds R c') :
    Outcome.Alike E (Collection.Corresponds R) (c.group fs columns) (c'.group fs columns') := by
  have hkeys : ∀ e e' : Entry, e.Corresponds R e' →
      Outcome.Alike E Eq (evalColumns fs columns e) (evalColumns fs columns' e') :=
    fun _ _ he => h.evalColumns_alike hfs hcolumns he
  have hheaders : headersOf columns = headersOf columns' :=
    congrArg Headers.mk (Column.names_eq hcolumns)
  rw [group_eq, group_eq]
  refine (Outcome.Alike.mapM_eq hc.entries hkeys).map fun _ _ _ => corresponds_groups ?_
  rw [groupsFor, groupsFor, keysSeen_eq hkeys hc.entries, hheaders, hc.kind_eq,
    List.forall₂_map_left_iff, List.forall₂_map_right_iff, List.forall₂_same]
  exact fun key _ => .group rfl rfl
    (corresponds_ofEntries (filter_hasKey hkeys hc.entries key) c'.kind)

/-- Records with the same keys are put in the same order. -/
theorem mergeSort_corresponds {le le' : Entry → Entry → Bool}
    (hle : ∀ a a' b b' : Entry, a.Corresponds R a' → b.Corresponds R b' → le a b = le' a' b')
    (h : List.Forall₂ (Entry.Corresponds R) es es') :
    List.Forall₂ (Entry.Corresponds R) (es.mergeSort le) (es'.mergeSort le') := by
  -- Both lists are read off one list of pairs, and it is the pairs that are sorted.
  obtain ⟨hlength, hpairs⟩ := List.forall₂_iff_zip.mp h
  have hfst : (es.zip es').map Prod.fst = es := List.map_fst_zip (Nat.le_of_eq hlength)
  have hsnd : (es.zip es').map Prod.snd = es' := List.map_snd_zip (Nat.le_of_eq hlength.symm)
  have hsorted : ((es.zip es').mergeSort fun p q => le p.1 q.1).map Prod.fst = es.mergeSort le := by
    rw [List.map_mergeSort (s := le) fun _ _ _ _ => rfl, hfst]
  have hsorted' : ((es.zip es').mergeSort fun p q => le p.1 q.1).map Prod.snd
      = es'.mergeSort le' := by
    rw [List.map_mergeSort (s := le') fun p hp q hq => hle _ _ _ _ (hpairs hp) (hpairs hq), hsnd]
  rw [← hsorted, ← hsorted', List.forall₂_map_left_iff, List.forall₂_map_right_iff,
    List.forall₂_same]
  exact fun p hp => hpairs (List.mem_mergeSort.mp hp)

theorem sort_alike (h : AnswerAlike R K E) (hfs : fs.RunsAlike R E) {keys keys' : List Expr}
    (hkeys : List.Forall₂ (Expr.Corresponds K) keys keys') (hc : c.Corresponds R c') :
    Outcome.Alike E (Collection.Corresponds R) (c.sort fs keys) (c'.sort fs keys') := by
  rw [sort_eq, sort_eq, ← hc.kind_eq]
  refine .ok (corresponds_ofEntries (mergeSort_corresponds ?_ hc.entries) c.kind)
  intro a a' b b' ha hb
  rw [keysLe, keysLe, h.evalKeys_eq hfs hkeys ha, h.evalKeys_eq hfs hkeys hb]

/-- A table shows nothing of its records but the values of its columns: both are one. -/
theorem project_alike (h : AnswerAlike R K E) (hfs : fs.RunsAlike R E) {columns columns' : List Column}
    (hcolumns : List.Forall₂ (Column.Corresponds K) columns columns') (hc : c.Corresponds R c') :
    Outcome.Alike E (fun table table' => ∃ rs, table = .rows rs ∧ table' = .rows rs)
      (c.project fs columns) (c'.project fs columns') := by
  have hheaders : headersOf columns = headersOf columns' :=
    congrArg Headers.mk (Column.names_eq hcolumns)
  refine (Outcome.Alike.mapM_eq hc.entries fun _ _ he => h.evalColumns_alike hfs hcolumns he).bind ?_
  rintro values _ rfl
  rw [hheaders]
  exact .ok ⟨_, rfl, rfl⟩

end Collection

/-! ## Runs -/

section Runs

variable {fs : Registry} {c c' : Collection}

/-- The step. -/
theorem Plan.run_alike (h : AnswerAlike R K E) (hfs : fs.RunsAlike R E) (hR : ∀ r, R r r) {p p' : Plan}
    (hp : p.StepCorresponds K p') (hc : c.Corresponds R c') :
    Outcome.Alike E (Collection.Corresponds R) (p.run fs c) (p'.run fs c') := by
  cases hp with
  | filter hcondition =>
      exact Collection.compact_alike (fun _ _ he => h.eval_condition_alike hfs hcondition he) hc
  | table hcolumns =>
      refine (Collection.project_alike h hfs hcolumns hc).mono ?_
      rintro _ _ ⟨rs, rfl, rfl⟩
      exact Collection.corresponds_rows (List.forall₂_same.mpr fun r _ => hR r)
  | group hcolumns => exact Collection.group_alike h hfs hcolumns hc
  | sort hkeys => exact Collection.sort_alike h hfs hkeys hc

/-- The run. -/
theorem runAll_alike (h : AnswerAlike R K E) (hfs : fs.RunsAlike R E) (hR : ∀ r, R r r) {ps ps' : List Plan}
    (hps : List.Forall₂ (Plan.StepCorresponds K) ps ps') (hc : c.Corresponds R c') :
    Outcome.Alike E (Collection.Corresponds R) (runAll fs ps c) (runAll fs ps' c') := by
  induction hps generalizing c c' with
  | nil => exact .ok hc
  | @cons p p' ps ps' hp _ ih =>
      have halike : Outcome.Alike E (Collection.Corresponds R) (p.run fs c) (p'.run fs c') :=
        Plan.run_alike h hfs hR hp hc
      rw [runAll, runAll]
      generalize p.run fs c = x at halike ⊢
      generalize p'.run fs c' = y at halike ⊢
      cases halike with
      | ok hnext => exact ih hnext
      | error herr => exact .error herr

end Runs

end RecordQuery
