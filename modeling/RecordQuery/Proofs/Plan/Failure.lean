/-
# Where the error of a run comes from

A run has no errors of its own: what stops it is an expression that has no value for some
record.

    filter          an operand of the condition, for a record of the collection
    table, group    the expression of a column, for a record of the collection
    sort            nothing; a key without a value counts as nil

No record is ever refused, for a filter writes over places that are taken, a group is
filled place by place from the kind of collection that its members come from, and a sort
puts back what was there.  `exists_eval_of_run_error` says so for a whole plan.

What an expression can fail from is said by `EvalError.ArisesFrom`, by induction on the
expression:

    missing    a record has no value under a key
    unknown    a function that the expression calls is not registered
    raised     a registered function that it calls fails of its own accord

A function that fails as one of its arguments does for some record, such as an aggregate that
hands its argument on to the members of a group, does not fail of its own accord.  What the
functions of the language raise is about the arguments they were given, and nothing else
(`Builtin.isAboutArguments_of_raises`); another function may raise what it likes.

The functions called in a query that was read are all registered, and then none is unknown.
-/
import RecordQuery.Proofs.Plan.Filter
import RecordQuery.Proofs.Plan.Group
import RecordQuery.Proofs.Plan.Sort
import RecordQuery.Proofs.Query.Append
import RecordQuery.Proofs.Query.Word
import RecordQuery.Proofs.Record.Lookup

namespace RecordQuery

open Grammar

variable {fs : Registry}

/-! ## Errors of an expression -/

/-- A record or other data was refused. -/
def EvalError.isInvalidData : EvalError → Bool
  | .foreignEntry _ | .pastEnd _ _ | .invalidData _ => true
  | .keyNotFound _ | .unknownFunction _ | .expectingArguments _ _ | .unsupportedType _ _
  | .dateParse _ _ _ => false

/-- The error is about the number, the type or the text of the arguments of a call. -/
def EvalError.isAboutArguments : EvalError → Bool
  | .expectingArguments _ _ | .unsupportedType _ _ | .dateParse _ _ _ => true
  | .keyNotFound _ | .unknownFunction _ | .foreignEntry _ | .pastEnd _ _ | .invalidData _ => false

/-- The function fails with the error of its own accord: none of the arguments has failed with
it, for any record. -/
def Function.Raises (f : Function) (err : EvalError) : Prop :=
  ∃ (args : List Arg) (e : Entry), f.run args e = .error err
    ∧ ∀ arg ∈ args, ∀ e' : Entry, arg.read e' ≠ .error err

/-- Where an error can come from in an expression that calls functions of the given names. -/
inductive EvalError.ArisesFrom (fs : Registry) (called : List String) : EvalError → Prop
  | missing (key : String) : ArisesFrom fs called (.keyNotFound key)
  | unknown {name : String} : name ∈ called → fs.knows name = false →
      ArisesFrom fs called (.unknownFunction name)
  | raised {name : String} {f : Function} {err : EvalError} : name ∈ called →
      fs.find? name = some f → f.Raises err → ArisesFrom fs called err

/-- The reading fails with such errors only, whatever the record. -/
def Reading.FailsWithin (fs : Registry) (called : List String) (read : Reading) : Prop :=
  ∀ (e : Entry) (err : EvalError), read e = .error err → err.ArisesFrom fs called

theorem EvalError.ArisesFrom.mono {called called' : List String} {err : EvalError}
    (h : err.ArisesFrom fs called) (hsub : called ⊆ called') : err.ArisesFrom fs called' := by
  cases h with
  | missing key => exact .missing key
  | unknown hname hunknown => exact .unknown (hsub hname) hunknown
  | raised hname hfind hraises => exact .raised (hsub hname) hfind hraises

theorem Reading.FailsWithin.mono {called called' : List String} {read : Reading}
    (h : read.FailsWithin fs called) (hsub : called ⊆ called') : read.FailsWithin fs called' :=
  fun e err herr => (h e err herr).mono hsub

/-- A call fails as one of its arguments does for some record, or the function raises the
error. -/
theorem Function.raises_or_exists {f : Function} {args : List Arg} {e : Entry} {err : EvalError}
    (h : f.run args e = .error err) :
    f.Raises err ∨ ∃ arg ∈ args, ∃ e' : Entry, arg.read e' = .error err := by
  by_cases hargs : ∃ arg ∈ args, ∃ e' : Entry, arg.read e' = .error err
  · exact Or.inr hargs
  · refine Or.inl ⟨args, e, h, fun arg harg e' herr => ?_⟩
    exact hargs ⟨arg, harg, e', herr⟩

mutual

theorem Expr.eval_failsWithin (fs : Registry) : ∀ x : Expr,
    (x.eval fs).FailsWithin fs x.called
  | .literal text => fun _ _ h => by cases h
  | .field key => fun e err h => by
      obtain ⟨missing, rfl⟩ := Entry.get_error (e := e) h
      exact .missing missing
  | .call function args => by
      intro e err h
      cases hfind : fs.find? function with
      | some f =>
          rw [Expr.eval, hfind] at h
          rcases Function.raises_or_exists h with hraises | ⟨arg, harg, e', herr⟩
          · exact .raised List.mem_cons_self hfind hraises
          · have hfrom : err.ArisesFrom fs (calledByArgs args) :=
              evalArgs_failWithin fs args arg harg e' err herr
            exact hfrom.mono (List.subset_cons_self function _)
      | none =>
          rw [Expr.eval, hfind] at h
          cases h
          refine .unknown List.mem_cons_self ?_
          rw [Registry.knows, hfind]
          rfl

theorem evalArgs_failWithin (fs : Registry) : ∀ args : List Expr,
    ∀ arg ∈ evalArgs fs args, arg.read.FailsWithin fs (calledByArgs args)
  | [], arg, h => absurd h List.not_mem_nil
  | x :: args, arg, h => by
      rcases List.mem_cons.mp h with rfl | h
      · exact (Expr.eval_failsWithin fs x).mono (List.subset_append_left _ _)
      · exact (evalArgs_failWithin fs args arg h).mono (List.subset_append_right _ _)

end

/-! ## What the functions of the language raise -/

theorem Calendar.resolve_error {function : String} {v : Value} {err : EvalError}
    (h : Calendar.resolve function v = .error err) :
    ∃ input fault, err = .dateParse function input fault := by
  have hseconds : ∀ {n : Int}, Calendar.ofSeconds function n = .error err →
      ∃ input fault, err = .dateParse function input fault := by
    intro n hn
    unfold Calendar.ofSeconds at hn
    split at hn
    · cases hn
    · cases hn
      exact ⟨_, _, rfl⟩
  unfold Calendar.resolve at h
  split at h
  · exact hseconds (Outcome.map_eq_error_iff.mp h)
  · dsimp only at h
    split at h
    · cases h
    · split at h
      · split at h
        · exact hseconds (Outcome.map_eq_error_iff.mp h)
        · cases h
          exact ⟨_, _, rfl⟩
      · split at h
        · cases h
        · cases h
          exact ⟨_, _, rfl⟩
  · cases h
  · cases h

section Functions

variable {args : List Reading} {e : Entry} {err : EvalError}

/-- The error is about the arguments, or an argument has failed with it for some record. -/
def EvalError.OfArguments (args : List Reading) (err : EvalError) : Prop :=
  err.isAboutArguments = true ∨ ∃ arg ∈ args, ∃ e : Entry, arg e = .error err

/-- The error of an argument that is read for every member is one of the argument. -/
theorem ofArguments_mapM {arg : Reading} (harg : arg ∈ args) {es : List Entry}
    (h : es.mapM arg = .error err) : err.OfArguments args := by
  obtain ⟨e, -, he⟩ := Outcome.exists_of_mapM_error h
  exact Or.inr ⟨arg, harg, e, he⟩

theorem ofArguments_countMembers {members : Collection}
    (h : countMembers members args = .error err) : err.OfArguments args := by
  cases args with
  | nil => cases h
  | cons arg args =>
      rcases Outcome.bind_eq_error_iff.mp h with h | ⟨vs, -, h⟩
      · exact ofArguments_mapM List.mem_cons_self h
      · cases h

theorem ofArguments_sumMembers {arg : Reading} (harg : arg ∈ args) {members : Collection}
    (h : sumMembers members arg = .error err) : err.OfArguments args := by
  rcases Outcome.bind_eq_error_iff.mp h with h | ⟨vs, -, h⟩
  · exact ofArguments_mapM harg h
  · cases h

theorem ofArguments_datePart {function : Builtin} {part : Moment → Int}
    (h : datePart function part args e = .error err) : err.OfArguments args := by
  unfold datePart at h
  split at h
  · rename_i arg
    rcases Outcome.bind_eq_error_iff.mp h with h | ⟨v, -, h⟩
    · exact Or.inr ⟨arg, List.mem_cons_self, e, h⟩
    · rcases Outcome.bind_eq_error_iff.mp h with h | ⟨m, -, h⟩
      · obtain ⟨input, fault, rfl⟩ := Calendar.resolve_error h
        exact Or.inl rfl
      · split at h
        · cases h
        · cases h
  · cases h
    exact Or.inl rfl

theorem ofArguments_givenName (h : givenName args = some (.error err)) :
    err.OfArguments args := by
  unfold givenName at h
  split at h
  · rename_i name _
    have hname : name .blank = .error err := Option.some.inj h
    exact Or.inr ⟨name, List.mem_cons_of_mem _ List.mem_cons_self, .blank, hname⟩
  · cases h

/-- A call of a function of the language fails like its arguments, or because of them. -/
theorem Builtin.ofArguments_run (b : Builtin) (h : b.run args e = .error err) :
    err.OfArguments args := by
  cases b with
  | count =>
      unfold Builtin.run at h
      dsimp only at h
      split at h
      · cases h
      · exact ofArguments_countMembers h
  | sum =>
      unfold Builtin.run at h
      dsimp only at h
      split at h
      · cases h
        exact Or.inl rfl
      · split at h
        · cases h
        · exact ofArguments_sumMembers List.mem_cons_self h
  | rename =>
      unfold Builtin.run at h
      dsimp only at h
      split at h
      · cases h
        exact Or.inl rfl
      · split at h
        · exact Or.inr ⟨_, List.mem_cons_self, e, h⟩
        · exact Or.inr ⟨_, List.mem_cons_self, e, h⟩
        · cases h
          exact Or.inl rfl
        · rename_i hname
          cases h
          exact ofArguments_givenName hname
  | year => exact ofArguments_datePart h
  | month => exact ofArguments_datePart h

end Functions

theorem Builtin.isAboutArguments_of_raises {b : Builtin} {err : EvalError}
    (h : b.toFunction.Raises err) : err.isAboutArguments = true := by
  obtain ⟨args, e, hrun, hargs⟩ := h
  refine (b.ofArguments_run hrun).resolve_right ?_
  rintro ⟨arg, harg, e', herr⟩
  obtain ⟨arg', harg', rfl⟩ := List.mem_map.mp harg
  exact hargs arg' harg' e' herr

/-! ## Plans -/

/-- The expressions that a condition compares. -/
def Condition.operands : Condition → List Expr
  | .not c => c.operands
  | .compare _ lhs rhs => [lhs, rhs]

/-- The expressions of a single step. -/
def Plan.ownExprs : Plan → List Expr
  | .compound _ => []
  | .filter c => c.operands
  | .table columns | .group columns => columns.map Column.expr
  | .sort keys => keys

/-- The expressions of all the steps of a plan. -/
def Plan.exprs (p : Plan) : List Expr :=
  p.steps.flatMap Plan.ownExprs

/-- The error is that of one of the expressions, for some record. -/
def FailsAt (fs : Registry) (xs : List Expr) (err : EvalError) : Prop :=
  ∃ x ∈ xs, ∃ e : Entry, x.eval fs e = .error err

theorem Condition.failsAt_of_eval_error {e : Entry} {err : EvalError} : ∀ {c : Condition},
    c.eval fs e = .error err → FailsAt fs c.operands err
  | .not c, h => failsAt_of_eval_error (c := c) (Outcome.map_eq_error_iff.mp h)
  | .compare op lhs rhs, h => by
      rcases Outcome.bind_eq_error_iff.mp h with h | ⟨l, -, h⟩
      · exact ⟨lhs, List.mem_cons_self, e, h⟩
      · rcases Outcome.bind_eq_error_iff.mp h with h | ⟨r, -, h⟩
        · exact ⟨rhs, List.mem_cons_of_mem lhs List.mem_cons_self, e, h⟩
        · cases h

theorem failsAt_of_mapM_evalColumns {columns : List Column} {es : List Entry} {err : EvalError}
    (h : es.mapM (evalColumns fs columns) = .error err) :
    FailsAt fs (columns.map Column.expr) err := by
  obtain ⟨e, -, he⟩ := Outcome.exists_of_mapM_error h
  obtain ⟨column, hcolumn, heval⟩ := Outcome.exists_of_mapM_error he
  exact ⟨column.expr, List.mem_map_of_mem hcolumn, e, heval⟩

namespace Collection

theorem exists_of_keepEach_error {keep : Entry → Except EvalError Bool} {err : EvalError} :
    ∀ {es : List Entry}, keepEach keep es = .error err → ∃ e ∈ es, keep e = .error err
  | [], h => nomatch h
  | e :: es, h => by
      rw [keepEach] at h
      split at h
      · rename_i herr
        cases h
        exact ⟨e, List.mem_cons_self, herr⟩
      · obtain ⟨e', he', herr⟩ := exists_of_keepEach_error (Outcome.map_eq_error_iff.mp h)
        exact ⟨e', List.mem_cons_of_mem e he', herr⟩
      · obtain ⟨e', he', herr⟩ := exists_of_keepEach_error h
        exact ⟨e', List.mem_cons_of_mem e he', herr⟩

end Collection

/-- The step: what stops a step that is no compound is an expression of its own. -/
theorem failsAt_of_run_error {p : Plan} (hp : p.isStep = true) {c : Collection} {err : EvalError}
    (h : p.run fs c = .error err) : FailsAt fs p.ownExprs err := by
  cases p with
  | compound ps => cases hp
  | filter cond =>
      rw [Plan.run, Collection.compact_eq, Outcome.map_eq_error_iff] at h
      obtain ⟨e, -, he⟩ := Collection.exists_of_keepEach_error h
      exact Condition.failsAt_of_eval_error he
  | table columns =>
      rcases Outcome.bind_eq_error_iff.mp h with h | ⟨vs, -, h⟩
      · exact failsAt_of_mapM_evalColumns h
      · cases h
  | group columns =>
      rw [Plan.run, Collection.group_eq, Outcome.map_eq_error_iff] at h
      exact failsAt_of_mapM_evalColumns h
  | sort keys =>
      rw [Plan.run, Collection.sort_eq] at h
      cases h

theorem exists_of_runAll_error {err : EvalError} : ∀ {ps : List Plan} {c : Collection},
    runAll fs ps c = .error err → ∃ p ∈ ps, ∃ c' : Collection, p.run fs c' = .error err
  | [], _, h => nomatch h
  | p :: ps, c, h => by
      rw [runAll] at h
      split at h
      · rename_i herr
        cases h
        exact ⟨p, List.mem_cons_self, c, herr⟩
      · obtain ⟨q, hq, c', herr⟩ := exists_of_runAll_error h
        exact ⟨q, List.mem_cons_of_mem p hq, c', herr⟩

/-- The run: what stops a plan is one of its expressions, for some record. -/
theorem exists_eval_of_run_error {p : Plan} {c : Collection} {err : EvalError}
    (h : p.run fs c = .error err) : FailsAt fs p.exprs err := by
  rw [← runAll_steps] at h
  obtain ⟨step, hstep, c', herr⟩ := exists_of_runAll_error h
  obtain ⟨x, hx, e, heval⟩ := failsAt_of_run_error (Plan.isStep_of_mem_steps hstep) herr
  exact ⟨x, List.mem_flatMap.mpr ⟨step, hstep, hx⟩, e, heval⟩

/-! ## Queries that were read -/

/-- Every function called in the expressions is registered. -/
def Registered (fs : Registry) (xs : List Expr) : Prop :=
  ∀ x ∈ xs, ∀ name ∈ x.called, fs.knows name = true

theorem registered_append {xs ys : List Expr} :
    Registered fs (xs ++ ys) ↔ Registered fs xs ∧ Registered fs ys :=
  List.forall_mem_append

theorem registered_operand {w : String} {x : Expr} (h : OperandWord w x) :
    ∀ name ∈ x.called, fs.knows name = true := by
  cases h with
  | field => exact fun _ hname => absurd hname List.not_mem_nil
  | literal => exact fun _ hname => absurd hname List.not_mem_nil

theorem registered_operands {ws : List String} {c : Condition} (h : ConditionWords ws c) :
    Registered fs c.operands := by
  induction h with
  | compare hl _ hr =>
      exact List.forall_mem_cons.mpr
        ⟨registered_operand hl, List.forall_mem_singleton.mpr (registered_operand hr)⟩
  | not _ _ ih => exact ih

theorem registered_items {ws : List String} {cs : List Condition} (h : ItemWords ws cs) :
    ∀ c ∈ cs, Registered fs c.operands := by
  induction h with
  | nil => exact fun _ hc => absurd hc List.not_mem_nil
  | plain hws _ ih => exact List.forall_mem_cons.mpr ⟨registered_operands hws, ih⟩
  | introduced _ hws _ ih => exact List.forall_mem_cons.mpr ⟨registered_operands hws, ih⟩

theorem registered_values {ws : List String} {xs : List Expr}
    (h : List.Forall₂ (ValueWord fs) ws xs) : Registered fs xs := by
  induction h with
  | nil => exact fun _ hx => absurd hx List.not_mem_nil
  | cons hw _ ih => exact List.forall_mem_cons.mpr ⟨hw.registered, ih⟩

theorem map_expr_column (fs : Registry) (xs : List Expr) :
    (xs.map (Expr.column fs)).map Column.expr = xs := by
  rw [List.map_map]
  exact List.map_id xs

theorem registered_columns {ws : List String} {xs : List Expr} (h : SomeValueWords fs ws xs) :
    Registered fs ((xs.map (Expr.column fs)).map Column.expr) := by
  rw [map_expr_column]
  exact registered_values h.each

/-- The steps of plans call registered functions only. -/
def RegisteredSteps (fs : Registry) (ps : List Plan) : Prop :=
  ∀ step ∈ Plan.stepsOf ps, Registered fs step.ownExprs

theorem registeredSteps_filterClause {ws : List String} {p : Plan} (h : FilterClause ws p) :
    RegisteredSteps fs [p] := by
  obtain ⟨-, hitems⟩ := h
  rename_i cs
  intro step hstep
  have hsteps : Plan.stepsOf [Plan.compound (cs.map Plan.filter)] = cs.map Plan.filter := by
    rw [Plan.stepsOf, Plan.stepsOf, List.append_nil, Plan.steps, Plan.stepsOf_filters]
  rw [hsteps] at hstep
  obtain ⟨c, hc, rfl⟩ := List.mem_map.mp hstep
  exact registered_items hitems c hc

/-- A key that is passed on is a field, and calls nothing. -/
theorem registered_passedOn (keys : List Column) :
    Registered fs ((keys.map Parser.passedOn).map Column.expr) := by
  intro x hx
  rw [List.map_map] at hx
  obtain ⟨key, -, rfl⟩ := List.mem_map.mp hx
  exact fun _ hname => absurd hname List.not_mem_nil

theorem registeredSteps_makingClause {ws : List String} {p : Plan} (h : MakingClause fs ws p) :
    RegisteredSteps fs [p] := by
  cases h with
  | table _ hws => exact List.forall_mem_singleton.mpr (registered_columns hws)
  | group _ hws => exact List.forall_mem_singleton.mpr (registered_columns hws)
  | groupCalculatingNothing _ hws =>
      exact List.forall_mem_singleton.mpr (registered_columns hws)
  | summary _ hws hvs =>
      refine List.forall_mem_cons.mpr
        ⟨registered_columns hws, List.forall_mem_singleton.mpr ?_⟩
      rw [Plan.ownExprs, List.map_append, registered_append]
      exact ⟨registered_passedOn _, registered_columns hvs⟩
  | sort hws => exact List.forall_mem_singleton.mpr (registered_values hws.each)

theorem RegisteredSteps.cons {p : Plan} {ps : List Plan} (h : RegisteredSteps fs [p])
    (hps : RegisteredSteps fs ps) : RegisteredSteps fs (p :: ps) := by
  intro step hstep
  rw [← List.singleton_append, Plan.stepsOf_append] at hstep
  rcases List.mem_append.mp hstep with hstep | hstep
  · exact h step hstep
  · exact hps step hstep

theorem registeredSteps_query {ws : List String} {ps : List Plan} (h : QueryWords fs ws ps) :
    RegisteredSteps fs ps := by
  induction h with
  | nil => exact fun _ hstep => absurd hstep List.not_mem_nil
  | filter hclause _ _ ih => exact (registeredSteps_filterClause hclause).cons ih
  | making hclause _ ih => exact (registeredSteps_makingClause hclause).cons ih

/-- The expressions of a query that was read call registered functions only. -/
theorem registered_of_parse {words : List String} {p : Plan}
    (h : Plan.parse fs words = .ok p) : Registered fs p.exprs := by
  obtain ⟨qs, hqs, -⟩ := Outcome.map_eq_ok_iff.mp h
  obtain ⟨ps, hps, -⟩ := Parser.clauses_sound hqs
  intro x hx
  obtain ⟨step, hstep, hown⟩ := List.mem_flatMap.mp hx
  rw [Parser.steps_of_parse hps h] at hstep
  exact registeredSteps_query hps step hstep x hown

/-- The plan calls a registered function that fails with the error of its own accord. -/
def Plan.CallsRaising (fs : Registry) (p : Plan) (err : EvalError) : Prop :=
  ∃ x ∈ p.exprs, ∃ name ∈ x.called, ∃ f, fs.find? name = some f ∧ f.Raises err

/-- A function without arguments that fails with one error, whatever the record. -/
def failing (name : String) (err : EvalError) : Function where
  name := name
  signatures := [⟨[], "Fails"⟩]
  run _ _ := .error err

/-- The functions of the language, one that refuses every record, and one that says that
another function is unknown. -/
def withFailing : Registry :=
  (Registry.full.register (failing "refuse" (.invalidData "refused"))).register
    (failing "retired" (.unknownFunction "renewed"))

theorem parse_call_withFailing {word name : String}
    (hword : Word.identify word = .ok (.value (.call name [])))
    (hknown : withFailing.knows name = true) :
    Plan.parse withFailing ["into", "table", word]
      = .ok (.table [(Expr.call name []).column withFailing]) := by
  have hvalues : SomeValueWords withFailing [word] [.call name []] :=
    ⟨.cons ⟨hword, List.forall_mem_singleton.mpr hknown⟩ .nil, List.cons_ne_nil _ _⟩
  exact Parser.parse_table hvalues

end RecordQuery
