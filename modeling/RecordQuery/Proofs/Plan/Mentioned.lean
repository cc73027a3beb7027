/-
# Cells that a plan does not mention

A plan mentions the keys of its fields, wherever they stand: in conditions, columns and sort
keys, inside the arguments of calls, after `h.` or after `sz.`.  What else is in the rows of
a table passes through filters, groupings and sorts unseen, and is gone with the first table
that the plan makes.

So two tables that agree on what is mentioned (`Row.AgreeOn`, row by row) have one result.
Until a table is made, the two runs hold collections that correspond, with the unmentioned
cells still in them underneath the groups; after it they hold the same.
-/
import RecordQuery.Proofs.Plan.Correspondence
import RecordQuery.Proofs.Plan.Failure
import RecordQuery.Proofs.Record.Column

namespace RecordQuery

/-! ## What a plan mentions -/

/-- The keys of the fields in a plan. -/
def Plan.keys (p : Plan) : List String :=
  p.exprs.flatMap Expr.keys

/-- The part of a key that names a column. -/
def Key.name (key : String) : String :=
  (Key.split key).2

theorem Key.name_column (name : String) : Key.name (Key.column name) = name := by
  rw [Key.name, Key.split_column]

/-- Rows with the same column names and just as many values, which are the same in the
columns that the keys name. -/
structure Row.AgreeOn (keys : List String) (r s : Row) : Prop where
  names_eq : r.headers.names = s.headers.names
  length_eq : r.values.length = s.values.length
  value_eq : ∀ key ∈ keys, ∀ i ∈ r.headers.position (Key.name key), r.values[i]? = s.values[i]?

/-- The key is the same on both sides, and names what one of `keys` names. -/
def Key.Mentioned (keys : List String) (key key' : String) : Prop :=
  key = key' ∧ ∃ other ∈ keys, Key.name other = Key.name key

/-- What a key asks for is named in it. -/
theorem Lookup.name_eq {key name : String}
    (h : Lookup.ofKey key = .field name ∨ Lookup.ofKey key = .sizeOf name) :
    Key.name key = name := by
  rw [Key.name]
  unfold Lookup.ofKey at h
  split at h
  · rename_i hsplit
    rw [hsplit]
    rcases h with h | h <;> cases h
    rfl
  · rename_i hsplit
    rw [hsplit]
    split at h
    · split at h <;> rcases h with h | h <;> cases h
      rfl
    · split at h <;> rcases h with h | h <;> cases h
      rfl

/-! ## Rows that agree answer alike -/

variable {keys : List String}

theorem Row.AgreeOn.cell?_eq {r s : Row} (h : r.AgreeOn keys s) {key key' : String}
    (hkey : Key.Mentioned keys key key') :
    r.headers.cell? r.values (Key.name key) = s.headers.cell? s.values (Key.name key) := by
  obtain ⟨-, other, hother, hname⟩ := hkey
  have hheaders : r.headers = s.headers := congrArg Headers.mk h.names_eq
  have hvalue := h.value_eq other hother
  rw [hname] at hvalue
  rw [Headers.cell?, Headers.cell?, ← hheaders]
  cases hposition : r.headers.position (Key.name key) with
  | none => rfl
  | some i => exact hvalue i hposition

theorem Row.AgreeOn.get_eq {r s : Row} (h : r.AgreeOn keys s) {key key' : String}
    (hkey : Key.Mentioned keys key key') : r.get key = s.get key := by
  have hcell := h.cell?_eq hkey
  unfold Row.get
  cases hlookup : Lookup.ofKey key with
  | size => simp only [h.length_eq]
  | sizeOf name =>
      rw [Lookup.name_eq (Or.inr hlookup)] at hcell
      simp only [hcell]
  | field name =>
      rw [Lookup.name_eq (Or.inl hlookup)] at hcell
      simp only [hcell]
  | unknown => rfl

/-- Agreement is all that the keys mentioned ask for, and the errors are the same. -/
theorem answerAlike_agreeOn (keys : List String) :
    AnswerAlike (Row.AgreeOn keys) (Key.Mentioned keys) Eq where
  lookup_eq hkey := by rw [hkey.1]
  column := by
    rintro key key' name ⟨-, other, hother, hname⟩ hlookup
    refine ⟨rfl, other, hother, ?_⟩
    rw [Key.name_column, hname, Lookup.name_eq (Or.inr hlookup)]
  row := by
    intro r s key key' hrow hkey
    rw [← hkey.1, hrow.get_eq hkey]
    exact .refl (fun _ => rfl) _
  missing hkey := by rw [hkey.1]
  refl _ := rfl

/-! ## A plan beside itself -/

theorem Expr.corresponds_of_keys {x : Expr} (h : ∀ key ∈ x.keys, key ∈ keys) :
    x.Corresponds (Key.Mentioned keys) x :=
  Expr.corresponds_self fun key hkey => ⟨rfl, key, h key hkey, rfl⟩

theorem Condition.corresponds_of_keys {c : Condition}
    (h : ∀ x ∈ c.operands, ∀ key ∈ x.keys, key ∈ keys) :
    c.Corresponds (Key.Mentioned keys) c := by
  induction c with
  | not c ih => exact .not (ih h)
  | compare op lhs rhs =>
      obtain ⟨hl, hrest⟩ := List.forall_mem_cons.mp h
      exact .compare (Expr.corresponds_of_keys hl)
        (Expr.corresponds_of_keys (List.forall_mem_singleton.mp hrest))

theorem columns_correspond_of_keys {columns : List Column}
    (h : ∀ x ∈ columns.map Column.expr, ∀ key ∈ x.keys, key ∈ keys) :
    List.Forall₂ (Column.Corresponds (Key.Mentioned keys)) columns columns :=
  List.forall₂_same.mpr fun column hcolumn =>
    ⟨rfl, Expr.corresponds_of_keys (h column.expr (List.mem_map_of_mem hcolumn))⟩

theorem Plan.stepCorresponds_of_keys {p : Plan} (hp : p.isStep = true)
    (h : ∀ x ∈ p.ownExprs, ∀ key ∈ x.keys, key ∈ keys) :
    p.StepCorresponds (Key.Mentioned keys) p := by
  cases p with
  | compound ps => cases hp
  | filter c => exact .filter (Condition.corresponds_of_keys h)
  | table columns => exact .table (columns_correspond_of_keys h)
  | group columns => exact .group (columns_correspond_of_keys h)
  | sort xs => exact .sort (List.forall₂_same.mpr fun x hx => Expr.corresponds_of_keys (h x hx))

theorem Plan.steps_correspond_self (p : Plan) :
    List.Forall₂ (Plan.StepCorresponds (Key.Mentioned p.keys)) p.steps p.steps := by
  refine List.forall₂_same.mpr fun step hstep => ?_
  refine Plan.stepCorresponds_of_keys (Plan.isStep_of_mem_steps hstep) fun x hx key hkey => ?_
  exact List.mem_flatMap.mpr ⟨x, List.mem_flatMap.mpr ⟨step, hstep, hx⟩, hkey⟩

/-! ## Two tables, one result -/

theorem Row.AgreeOn.refl (keys : List String) (r : Row) : r.AgreeOn keys r :=
  ⟨rfl, rfl, fun _ _ _ _ => rfl⟩

/-- Whatever comes before the table and after it, the runs are one from the table on. -/
theorem runAll_table_eq {fs : Registry} (hfs : fs.RunsAlike (Row.AgreeOn keys) Eq) {before : List Plan} {columns : List Column}
    (hbefore : List.Forall₂ (Plan.StepCorresponds (Key.Mentioned keys)) before before)
    (hcolumns : List.Forall₂ (Column.Corresponds (Key.Mentioned keys)) columns columns)
    (after : List Plan) {c c' : Collection} (hc : c.Corresponds (Row.AgreeOn keys) c') :
    runAll fs (before ++ .table columns :: after) c
      = runAll fs (before ++ .table columns :: after) c' := by
  have hanswers := answerAlike_agreeOn keys
  have halike : Outcome.Alike Eq (Collection.Corresponds (Row.AgreeOn keys))
      (runAll fs before c) (runAll fs before c') :=
    runAll_alike hanswers hfs (Row.AgreeOn.refl keys) hbefore hc
  rw [runAll_append, runAll_append]
  generalize runAll fs before c = x at halike ⊢
  generalize runAll fs before c' = y at halike ⊢
  cases halike with
  | error herr => rw [herr]
  | @ok d d' hd =>
      have htable : d.project fs columns = d'.project fs columns := by
        refine ((Collection.project_alike hanswers hfs hcolumns hd).mono ?_).eq_of_eq
        rintro _ _ ⟨rs, rfl, rfl⟩
        rfl
      show runAll fs (.table columns :: after) d = runAll fs (.table columns :: after) d'
      rw [runAll, runAll, Plan.run, Plan.run, htable]

/-- Two tables that agree, row by row, on what a plan mentions have the same result or the
same error, as soon as one step of the plan makes a table. -/
theorem run_eq_of_agreeOn_keys (bs : List Builtin) {p : Plan}
    (htable : ∃ columns, Plan.table columns ∈ p.steps) {rs ss : List Row}
    (hrows : List.Forall₂ (Row.AgreeOn p.keys) rs ss) :
    p.run (.ofBuiltins bs) (.rows rs) = p.run (.ofBuiltins bs) (.rows ss) := by
  obtain ⟨columns, hcolumns⟩ := htable
  obtain ⟨before, after, hsteps⟩ := List.append_of_mem hcolumns
  have hself : ∀ step ∈ p.steps, step.StepCorresponds (Key.Mentioned p.keys) step :=
    List.forall₂_same.mp (Plan.steps_correspond_self p)
  rw [← runAll_steps, ← runAll_steps, hsteps]
  have hfs : (Registry.ofBuiltins bs).RunsAlike (Row.AgreeOn p.keys) Eq :=
    Registry.runsAlike_ofBuiltins (fun _ => rfl) bs
  refine runAll_table_eq hfs (List.forall₂_same.mpr fun step hstep => ?_) ?_ after
    (Collection.corresponds_rows hrows)
  · exact hself step (hsteps ▸ List.mem_append_left _ hstep)
  · cases hself _ hcolumns with
    | table hself => exact hself

/-- A filter and a grouping before the table; what they mention is looked up under another
case (`n`), inside a call and after `sz.`. -/
def mentionsThree : Plan :=
  .compound [.filter (.not (.compare .equals (.field "sz.a") (.literal "0"))),
    .compound [.group [⟨"b", .field "h.b"⟩],
      .table [⟨"b", .field "c.b"⟩, ⟨"sum-n", .call "sum" [.field "h.n"]⟩]]]

/-- Two rows, and a cell in the column that is not mentioned. -/
def rowsBeside (z z' : String) : List Row :=
  let headers : Headers := ⟨["a", "b", "N", "z"]⟩
  [⟨headers, [.text "x", .text "u", .text "1", .text z]⟩,
    ⟨headers, [.text "y", .text "u", .text "2", .text z']⟩]

theorem run_eq_of_agreeOn_mentionsThree :
    (∃ columns, Plan.table columns ∈ mentionsThree.steps)
      ∧ mentionsThree.keys = ["sz.a", "h.b", "c.b", "h.n"]
      ∧ List.Forall₂ (Row.AgreeOn mentionsThree.keys) (rowsBeside "p" "q") (rowsBeside "r" "")
      ∧ mentionsThree.run Registry.full (.rows (rowsBeside "p" "q"))
        = .ok (.rows [⟨⟨["b", "sum-n"]⟩, [.text "u", .integer 3]⟩])
      ∧ mentionsThree.run Registry.full (.rows (rowsBeside "p" "q"))
        = mentionsThree.run Registry.full (.rows (rowsBeside "r" "")) := by
  have htable : ∃ columns, Plan.table columns ∈ mentionsThree.steps :=
    ⟨_, List.mem_cons_of_mem _ (List.mem_cons_of_mem _ List.mem_cons_self)⟩
  have hrows : List.Forall₂ (Row.AgreeOn mentionsThree.keys) (rowsBeside "p" "q")
      (rowsBeside "r" "") :=
    .cons ⟨rfl, rfl, by decide⟩ (.cons ⟨rfl, rfl, by decide⟩ .nil)
  exact ⟨htable, rfl, hrows, rfl, run_eq_of_agreeOn_keys Builtin.all htable hrows⟩

end RecordQuery
