/-
# Sorts and filters behind a table

A table has one row for every record, with the values of the columns.  A later step sees
nothing but the row, and asks it for the column of a name.  The answer is the value that the
expression of that column had for the record, if the column is the first of its name
(`FirstOfName`); so it makes no difference whether the step comes behind the table, with the
names, or in front of it, with the expressions:

    table, sort by c.name       sort by the expression, table
    table, filter by c.name     filter by the expression, table

A key without a value counts as nil in a sort, and a condition without one stops a filter.
Neither can happen here: where there is a table, every column has a value for every record.
-/
import RecordQuery.Proofs.Plan.Arrange
import RecordQuery.Proofs.Plan.SortedGroups
import RecordQuery.Proofs.Record.Column

namespace RecordQuery

open Collection

/-! ## Columns by name -/

/-- The column at a place, and no column in front of it has its name. -/
structure FirstOfName (columns : List Column) (n : Nat) (column : Column) : Prop where
  here : columns[n]? = some column
  before : ∀ m < n, ∀ other : Column, columns[m]? = some other → other.name ≠ column.name

/-- The name is found there, whatever columns follow. -/
theorem FirstOfName.position {columns : List Column} {n : Nat} {column : Column}
    (h : FirstOfName columns n column) : (headersOf columns).position column.name = some n := by
  refine (Headers.position_eq_some_iff _ _ n).mpr (Or.inl ⟨⟨column.name, ?_, rfl⟩, ?_⟩)
  · show (columns.map Column.name)[n]? = some column.name
    rw [List.getElem?_map, h.here, Option.map_some]
  · intro m hm name hname
    have hmap : (columns.map Column.name)[m]? = some name := hname
    rw [List.getElem?_map] at hmap
    obtain ⟨other, hother, rfl⟩ := Option.map_eq_some_iff.mp hmap
    exact h.before m hm other hother

/-- Where all names differ, every column is the first of its name. -/
theorem FirstOfName.of_nodup {columns : List Column} (h : (columns.map Column.name).Nodup)
    {n : Nat} {column : Column} (hn : columns[n]? = some column) :
    FirstOfName columns n column where
  here := hn
  before := by
    intro m hm other hother hname
    have hm' : m < (columns.map Column.name).length := by
      rw [List.length_map]
      exact (List.getElem?_eq_some_iff.mp hother).1
    have hsame : (columns.map Column.name)[m]? = (columns.map Column.name)[n]? := by
      rw [List.getElem?_map, List.getElem?_map, hother, hn, Option.map_some, Option.map_some, hname]
    exact Nat.ne_of_lt hm ((List.getElem?_inj hm' h).mp hsame)

/-- An expression over records, and the one that stands for it behind a table of the columns:
a literal for itself, and the name of a column for its expression. -/
inductive Expr.NamedBy (columns : List Column) : Expr → Expr → Prop
  | literal (text : String) : Expr.NamedBy columns (.literal text) (.literal text)
  | column {n : Nat} {column : Column} : FirstOfName columns n column →
      Expr.NamedBy columns column.expr (.field (Key.column column.name))

/-- The same of conditions, at any depth of negation. -/
inductive Condition.NamedBy (columns : List Column) : Condition → Condition → Prop
  | not {c c' : Condition} : Condition.NamedBy columns c c' →
      Condition.NamedBy columns (.not c) (.not c')
  | compare (op : Comparison) {lhs lhs' rhs rhs' : Expr} : lhs.NamedBy columns lhs' →
      rhs.NamedBy columns rhs' →
        Condition.NamedBy columns (.compare op lhs rhs) (.compare op lhs' rhs')

/-! ## Records and their rows -/

section Rows

variable {fs : Registry} {columns : List Column} {e : Entry} {values : List Value}

/-- The row of a table with these values. -/
def rowUnder (columns : List Column) (values : List Value) : Row :=
  ⟨headersOf columns, values⟩

/-- The record and its row have the same value. -/
theorem Expr.NamedBy.eval {x x' : Expr} (h : x.NamedBy columns x')
    (hvalues : evalColumns fs columns e = .ok values) :
    ∃ v, x.eval fs e = .ok v ∧ x'.eval fs (.row (rowUnder columns values)) = .ok v := by
  cases h with
  | literal text => exact ⟨.text text, rfl, rfl⟩
  | column hfirst =>
      obtain ⟨v, hv, heval⟩ :=
        Outcome.exists_ok_of_getElem? (Outcome.mapM_eq_ok_iff.mp hvalues) hfirst.here
      refine ⟨v, heval, ?_⟩
      show (rowUnder columns values).get _ = .ok v
      simp only [Row.get, Lookup.ofKey_column, Headers.cell?, rowUnder, hfirst.position,
        Option.bind_some, hv]

theorem Condition.NamedBy.eval {c c' : Condition} (h : c.NamedBy columns c')
    (hvalues : evalColumns fs columns e = .ok values) :
    ∃ b, c.eval fs e = .ok b ∧ c'.eval fs (.row (rowUnder columns values)) = .ok b := by
  induction h with
  | not _ ih =>
      obtain ⟨b, hb, hb'⟩ := ih
      refine ⟨!b, ?_, ?_⟩
      · rw [Condition.eval, hb]
        rfl
      · rw [Condition.eval, hb']
        rfl
  | compare op hlhs hrhs =>
      obtain ⟨l, hl, hl'⟩ := hlhs.eval hvalues
      obtain ⟨r, hr, hr'⟩ := hrhs.eval hvalues
      refine ⟨op.holds l r, ?_, ?_⟩
      · rw [Condition.eval, hl, hr]
        rfl
      · rw [Condition.eval, hl', hr']
        rfl

/-- The same keys to sort by. -/
theorem evalKeys_named {keys keys' : List Expr}
    (h : List.Forall₂ (Expr.NamedBy columns) keys keys')
    (hvalues : evalColumns fs columns e = .ok values) :
    evalKeys fs keys e = evalKeys fs keys' (.row (rowUnder columns values)) := by
  induction h with
  | nil => rfl
  | cons hkey _ ih =>
      obtain ⟨v, hv, hv'⟩ := hkey.eval hvalues
      simp only [evalKeys, List.map_cons, hv, hv'] at ih ⊢
      rw [ih]

end Rows

/-! ## The table of a list of records -/

section Tables

variable {fs : Registry} {columns : List Column} {f : Entry → List Value} {es : List Entry}

/-- One row for every record, with the values that `f` gives. -/
def tableOf (columns : List Column) (f : Entry → List Value) (es : List Entry) : Collection :=
  .rows (es.map fun e => rowUnder columns (f e))

theorem tableOf_eq (columns : List Column) (f : Entry → List Value) (es : List Entry) :
    tableOf columns f es = ofEntries .rows (es.map fun e => .row (rowUnder columns (f e))) :=
  eq_ofEntries rfl (by simp [tableOf, entries])

theorem ofKind_tableOf (columns : List Column) (f : Entry → List Value) (es : List Entry) :
    OfKind .rows (es.map fun e => .row (rowUnder columns (f e))) := by
  intro e he
  obtain ⟨_, -, rfl⟩ := List.mem_map.mp he
  rfl

theorem project_of_ok {c : Collection} (h : ∀ e ∈ c.entries, evalColumns fs columns e = .ok (f e)) :
    c.project fs columns = .ok (tableOf columns f c.entries) := by
  rw [project, Outcome.mapM_of_ok h]
  show Except.ok (Collection.rows _) = _
  rw [List.map_map]
  rfl

theorem exists_values_of_project {c c' : Collection} (h : c.project fs columns = .ok c') :
    ∃ f : Entry → List Value, ∀ e ∈ c.entries, evalColumns fs columns e = .ok (f e) := by
  obtain ⟨rows, hrows, -⟩ := Outcome.bind_eq_ok_iff.mp h
  exact Outcome.exists_results hrows

/-- A sort behind the table puts the rows in the order of the records. -/
theorem run_sort_tableOf {keys keys' : List Expr}
    (h : List.Forall₂ (Expr.NamedBy columns) keys keys')
    (hf : ∀ e ∈ es, evalColumns fs columns e = .ok (f e)) :
    (Plan.sort keys').run fs (tableOf columns f es)
      = .ok (tableOf columns f (es.mergeSort (keysLe fs keys))) := by
  have hrows : (es.mergeSort (keysLe fs keys)).map (fun e => Entry.row (rowUnder columns (f e)))
      = (es.map fun e => Entry.row (rowUnder columns (f e))).mergeSort (keysLe fs keys') := by
    refine List.map_mergeSort fun a ha b hb => ?_
    rw [keysLe, keysLe, evalKeys_named h (hf a ha), evalKeys_named h (hf b hb)]
  rw [tableOf_eq, run_sort fs keys' (ofKind_tableOf columns f es), tableOf_eq, hrows]

/-- A filter behind the table keeps the rows of the records that it would keep. -/
theorem run_filter_tableOf {cond cond' : Condition} (h : cond.NamedBy columns cond')
    (hf : ∀ e ∈ es, evalColumns fs columns e = .ok (f e)) :
    (Plan.filter cond').run fs (tableOf columns f es)
      = .ok (tableOf columns f (es.filter (cond.holds fs))) := by
  have hanswered : ∀ e' ∈ es.map (fun e => Entry.row (rowUnder columns (f e))),
      ∃ b, cond'.eval fs e' = .ok b := by
    intro e' he'
    obtain ⟨e, he, rfl⟩ := List.mem_map.mp he'
    obtain ⟨b, -, hb⟩ := h.eval (hf e he)
    exact ⟨b, hb⟩
  have hrows : (es.map fun e => Entry.row (rowUnder columns (f e))).filter (cond'.holds fs)
      = (es.filter (cond.holds fs)).map fun e => Entry.row (rowUnder columns (f e)) := by
    rw [List.filter_map]
    refine congrArg _ (List.filter_congr fun e he => ?_)
    obtain ⟨b, hb, hb'⟩ := h.eval (hf e he)
    rw [Function.comp_apply, Condition.holds, Condition.holds, hb, hb']
  rw [tableOf_eq, run_filter (ofKind_tableOf columns f es) hanswered, tableOf_eq, hrows]

end Tables

/-! ## Main result -/

theorem run_pair {fs : Registry} {p q : Plan} {c c' : Collection} (h : p.run fs c = .ok c') :
    (Plan.compound [p, q]).run fs c = q.run fs c' := by
  rw [Plan.run, runAll, h]
  exact runAll_singleton fs q c'

/-- Where a table can be made of a collection, a sort by names of columns and a filter by
conditions over them may as well come before the table, with the expressions of the columns in
place of their names.  The two runs succeed and give the same table. -/
theorem table_before_arranging {fs : Registry} {columns : List Column} {c table : Collection}
    (h : (Plan.table columns).run fs c = .ok table) :
    (∀ keys keys' : List Expr, List.Forall₂ (Expr.NamedBy columns) keys keys' →
      ∃ result : Collection,
        (Plan.compound [.table columns, .sort keys']).run fs c = .ok result
          ∧ (Plan.compound [.sort keys, .table columns]).run fs c = .ok result)
      ∧ ∀ cond cond' : Condition, cond.NamedBy columns cond' →
        ∃ result : Collection,
          (Plan.compound [.table columns, .filter cond']).run fs c = .ok result
            ∧ (Plan.compound [.filter cond, .table columns]).run fs c = .ok result := by
  rw [Plan.run] at h
  obtain ⟨f, hf⟩ := exists_values_of_project h
  have htable : (Plan.table columns).run fs c = .ok (tableOf columns f c.entries) :=
    project_of_ok hf
  -- What a sort or a filter leaves are records of the collection, so they have their values.
  have hpart : ∀ es : List Entry, es ⊆ c.entries →
      (Plan.table columns).run fs (ofEntries c.kind es) = .ok (tableOf columns f es) := by
    intro es hes
    have hentries : (ofEntries c.kind es).entries = es :=
      entries_ofEntries fun e he => kind_of_mem_entries (hes he)
    have hvalues : ∀ e ∈ (ofEntries c.kind es).entries, evalColumns fs columns e = .ok (f e) := by
      intro e he
      rw [hentries] at he
      exact hf e (hes he)
    have hproject := project_of_ok hvalues
    rwa [hentries] at hproject
  constructor
  · intro keys keys' hkeys
    have hsort : (Plan.sort keys).run fs c = .ok (c.sorted fs keys) := sort_eq fs keys c
    refine ⟨tableOf columns f (c.entries.mergeSort (keysLe fs keys)), ?_, ?_⟩
    · rw [run_pair htable]
      exact run_sort_tableOf hkeys hf
    · rw [run_pair hsort]
      exact hpart _ (List.mergeSort_perm c.entries _).subset
  · intro cond cond' hcond
    have hanswered : ∀ e ∈ c.entries, ∃ b, cond.eval fs e = .ok b := by
      intro e he
      obtain ⟨b, hb, -⟩ := hcond.eval (hf e he)
      exact ⟨b, hb⟩
    have hfilter := run_filter c.ofKind_entries hanswered
    rw [ofEntries_entries] at hfilter
    refine ⟨tableOf columns f (c.entries.filter (cond.holds fs)), ?_, ?_⟩
    · rw [run_pair htable]
      exact run_filter_tableOf hcond hf
    · rw [run_pair hfilter]
      exact hpart _ List.filter_sublist.subset

/-- Columns without a name, with a dot in the name, and with names that differ in case alone or
not at all. -/
def oddColumns : List Column :=
  [⟨"", .field "n"⟩, ⟨"a.b", .field "m"⟩, ⟨"A.b", .literal "z"⟩, ⟨"a.b", .field "n"⟩]

/-- The table of the three rows under them. -/
def oddTable : Collection :=
  .rows [rowUnder oddColumns [.text "2", .text "x", .text "z", .text "2"],
    rowUnder oddColumns [.text "1", .text "y", .text "z", .text "1"],
    rowUnder oddColumns [.text "1", .text "x", .text "z", .text "1"]]

/-- The names of the first two, in a sort and under two negations, on three rows. -/
theorem table_before_arranging_oddColumns :
    (Plan.table oddColumns).run .empty threeRows = .ok oddTable
      ∧ List.Forall₂ (Expr.NamedBy oddColumns) [.field "m", .field "n"]
          [.field "c.a.b", .field "c."]
      ∧ (∃ result : Collection,
        (Plan.compound [.table oddColumns, .sort [.field "c.a.b", .field "c."]]).run .empty threeRows
            = .ok result
          ∧ (Plan.compound [.sort [.field "m", .field "n"], .table oddColumns]).run .empty threeRows
            = .ok result)
      ∧ ∃ result : Collection,
        (Plan.compound [.table oddColumns,
            .filter (.not (.not (.compare .equals (.field "c.a.b") (.literal "x"))))]).run .empty
              threeRows = .ok result
          ∧ (Plan.compound [.filter (.not (.not (.compare .equals (.field "m") (.literal "x")))),
            .table oddColumns]).run .empty threeRows = .ok result := by
  have htable : (Plan.table oddColumns).run .empty threeRows = .ok oddTable := rfl
  have hnone : FirstOfName oddColumns 0 ⟨"", .field "n"⟩ :=
    ⟨rfl, fun m hm => absurd hm (Nat.not_lt_zero m)⟩
  have hdot : FirstOfName oddColumns 1 ⟨"a.b", .field "m"⟩ := by
    refine ⟨rfl, fun m hm other hother => ?_⟩
    rw [Nat.lt_one_iff.mp hm] at hother
    cases hother
    decide
  have hkeys : List.Forall₂ (Expr.NamedBy oddColumns) [.field "m", .field "n"]
      [.field "c.a.b", .field "c."] := .cons (.column hdot) (.cons (.column hnone) .nil)
  obtain ⟨hsort, hfilter⟩ := table_before_arranging htable
  exact ⟨htable, hkeys, hsort _ _ hkeys,
    hfilter _ _ (.not (.not (.compare .equals (.column hdot) (.literal "x"))))⟩

end RecordQuery
