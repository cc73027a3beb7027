/-
# Counts and sums of a table that was read

    into summary h.n calculate f.count f.sum[h.m]

has one row for every text in the column `n`, in the order in which the texts come first:
the text, how many rows have it, and the clamped sum of those of their `m` cells that spell
an integer.  This holds whatever is read and whatever the columns are called, as long as
the word for the sum is one call with one argument, which a comma or a closing bracket in
the name would spoil.

The word for `n` may stand for another name in the result, since only letters are kept, but
the column is looked up again under the name that it got, and so the key comes through.
-/
import RecordQuery.Proofs.Csv.Table
import RecordQuery.Proofs.Plan.Group
import RecordQuery.Proofs.Query.Aggregate
import RecordQuery.Proofs.Query.Parse
import RecordQuery.Proofs.Query.Word
import RecordQuery.Query

namespace RecordQuery

open Grammar

/-! ## The words -/

theorem notMem_header {c : Char} (hc : c ∉ "h.".toList) {name : String} (h : c ∉ name.toList) :
    c ∉ ("h." ++ name).toList := by
  rw [String.toList_append, List.mem_append]
  rintro (hmem | hmem)
  · exact hc hmem
  · exact h hmem

/-- The word for the sum over a column. -/
theorem identify_sum {m : String} (hcomma : ',' ∉ m.toList) (hbracket : ']' ∉ m.toList) :
    Word.identify ("f.sum[h." ++ m ++ "]") = .ok (.value (.call "sum" [.field ("h." ++ m)])) := by
  have hword : "f.sum[h." ++ m ++ "]" = "f." ++ ("sum" ++ "[" ++ ("h." ++ m) ++ "]") := by
    rw [← String.toList_inj]
    simp only [String.toList_append, List.append_assoc]
    rfl
  have hsome : "h." ++ m ≠ "" := by
    intro h
    have hlist := congrArg String.toList h
    rw [String.toList_append] at hlist
    cases hlist
  rw [hword]
  exact Word.identify_call (by decide) (by decide) (notMem_header (by decide) hbracket) hsome
    (notMem_header (by decide) hcomma) (Word.argument_header m)

/-- What the words to calculate stand for. -/
def totals (m : String) : List Expr :=
  [.call "count" [], .call "sum" [.field ("h." ++ m)]]

/-- The columns of the result: the key, and what is calculated. -/
def totalsColumns (key : Column) (m : String) : List Column :=
  Parser.passedOn key :: (totals m).map (Expr.column Registry.full)

theorem parse_totals (n : String) {m : String} (hcomma : ',' ∉ m.toList)
    (hbracket : ']' ∉ m.toList) :
    Plan.parse Registry.full ["into", "summary", "h." ++ n, "calculate", "f.count",
        "f.sum[h." ++ m ++ "]"]
      = .ok (.compound [.group [Expr.column Registry.full (.field ("h." ++ n))],
          .table (totalsColumns (Expr.column Registry.full (.field ("h." ++ n))) m)]) := by
  have htotals : SomeValueWords Registry.full ["f.count", "f.sum[h." ++ m ++ "]"] (totals m) :=
    ⟨.cons ⟨rfl, List.forall_mem_singleton.mpr rfl⟩
      (.cons ⟨identify_sum hcomma hbracket, List.forall_mem_singleton.mpr rfl⟩ .nil),
      List.cons_ne_nil _ _⟩
  exact Parser.parse_calculate (Word.someValueWords_header Registry.full n) htotals

/-! ## The groups -/

/-- The rows that have a value under a name. -/
def rowsHaving (n : String) (v : Value) (rs : List Row) : List Row :=
  rs.filter fun r => r.cell? n = some v

/-- The group of the rows that have a value under a name. -/
def groupHaving (headers : Headers) (n : String) (rs : List Row) (v : Value) : Group :=
  .mk headers [v] (.rows (rowsHaving n v rs))

/-- The key of a record in a grouping by the column. -/
def keyUnder (n : String) : Entry → List Value
  | .row r => (r.cell? n).toList
  | .group _ | .blank => []

theorem map_keyUnder {n : String} : ∀ {rs : List Row}, (∀ r ∈ rs, (r.cell? n).isSome = true) →
    (rs.map Entry.row).map (keyUnder n) = (cellsUnder n rs).map fun v => [v]
  | [], _ => rfl
  | r :: rs, h => by
      obtain ⟨hr, hrs⟩ := List.forall_mem_cons.mp h
      obtain ⟨v, hv⟩ := Option.isSome_iff_exists.mp hr
      have hcells : cellsUnder n (r :: rs) = v :: cellsUnder n rs := List.filterMap_cons_some hv
      rw [List.map_cons, List.map_cons, map_keyUnder hrs, hcells, keyUnder, hv]
      rfl

theorem groupsBy_keyUnder (headers : Headers) {n : String} {rs : List Row}
    (h : ∀ r ∈ rs, (r.cell? n).isSome = true) :
    Collection.groupsBy headers (keyUnder n) (.rows rs)
      = (cellsUnder n rs).eraseDups.map (groupHaving headers n rs) := by
  have hmembers : ∀ v : Value, Collection.ofEntries .rows
      ((rs.map Entry.row).filter fun e => keyUnder n e = [v]) = .rows (rowsHaving n v rs) := by
    intro v
    have hentries : (Collection.rows (rowsHaving n v rs)).entries
        = (rs.map Entry.row).filter fun e => keyUnder n e = [v] := by
      rw [List.filter_map]
      refine congrArg (List.map Entry.row) (List.filter_congr fun r _ => ?_)
      exact decide_eq_decide.mpr Option.toList_eq_singleton_iff.symm
    exact (Collection.eq_ofEntries rfl hentries).symm
  have hkeys : ((Collection.rows rs).entries.map (keyUnder n)).eraseDups
      = (cellsUnder n rs).eraseDups.map fun v => [v] := by
    rw [Collection.entries, map_keyUnder h]
    exact eraseDups_map_of_injective (fun _ _ hv => List.singleton_inj.mp hv) _
  rw [Collection.groupsBy, hkeys, List.map_map]
  exact List.map_congr_left fun v _ => congrArg (Group.mk headers [v]) (hmembers v)

theorem group_header {n : String} {rs : List Row} (h : ∀ r ∈ rs, (r.cell? n).isSome = true)
    {key : Column} (hkey : key.expr = .field ("h." ++ n)) :
    (Collection.rows rs).group Registry.full [key]
      = .ok (.groups ((cellsUnder n rs).eraseDups.map (groupHaving ⟨[key.name]⟩ n rs))) := by
  rw [← groupsBy_keyUnder _ h]
  refine Collection.group_of_ok fun e he => ?_
  obtain ⟨r, hr, rfl⟩ := List.mem_map.mp he
  obtain ⟨v, hv⟩ := Option.isSome_iff_exists.mp (h r hr)
  have heval : key.expr.eval Registry.full (.row r) = .ok v := by
    rw [hkey, Expr.eval]
    exact Row.get_header hv
  rw [evalColumns, List.mapM_cons, heval, keyUnder, hv]
  rfl

/-! ## The rows of the result -/

/-- The row of a value: the value, the number of rows that have it, and the sum of their
cells in the other column. -/
def totalsOf (n m : String) (rs : List Row) (v : Value) : List Value :=
  [v, .ofSize (rowsHaving n v rs).length,
    .integer (sumClamped ((cellsUnder m (rowsHaving n v rs)).filterMap Value.asInt))]

theorem isSome_of_text {o : Option Value} (h : ∃ text : String, o = some (.text text)) :
    o.isSome = true := by
  obtain ⟨text, rfl⟩ := h
  rfl

/-- The key comes back when it is looked up under the name of its column. -/
theorem eval_passedOn_groupHaving {n : String} {rs : List Row} (key : Column) (v : Value) :
    (Parser.passedOn key).expr.eval Registry.full (.group (groupHaving ⟨[key.name]⟩ n rs v))
      = .ok v := by
  obtain ⟨v', hv', hget⟩ := @Entry.get_column (.group (groupHaving ⟨[key.name]⟩ n rs v))
    key.name List.mem_cons_self rfl
  have hplace : [v][[key.name].idxOf key.name]? = some v' := hv'
  rw [List.idxOf_cons_self] at hplace
  cases hplace
  rw [Parser.passedOn, Expr.eval]
  exact hget

theorem eval_sum_groupHaving {n m : String} {rs : List Row}
    (hm : ∀ r ∈ rs, ∃ text : String, r.cell? m = some (.text text)) (headers : Headers)
    (v : Value) :
    (Expr.call "sum" [.field ("h." ++ m)]).eval Registry.full (.group (groupHaving headers n rs v))
      = .ok (.integer (sumClamped ((cellsUnder m (rowsHaving n v rs)).filterMap Value.asInt))) := by
  have hmembers : ∀ r ∈ rowsHaving n v rs, ∃ text : String, r.cell? m = some (.text text) :=
    fun r hr => hm r (List.mem_filter.mp hr).1
  have hnolist : ∀ vs, Value.list vs ∉ cellsUnder m (rowsHaving n v rs) := by
    intro vs hvs
    obtain ⟨r, hr, hcell⟩ := List.mem_filterMap.mp hvs
    obtain ⟨text, htext⟩ := hmembers r hr
    rw [htext] at hcell
    cases hcell
  have hsum := @eval_sum_group Registry.full (Registry.provides_full .sum) ("h." ++ m)
    (groupHaving headers n rs v) _ (mapM_get_header fun r hr => isSome_of_text (hmembers r hr))
  rwa [integersIn_of_noList hnolist] at hsum

theorem evalColumns_groupHaving {n m : String} {rs : List Row}
    (hm : ∀ r ∈ rs, ∃ text : String, r.cell? m = some (.text text)) (key : Column) (v : Value) :
    evalColumns Registry.full (totalsColumns key m) (.group (groupHaving ⟨[key.name]⟩ n rs v))
      = .ok (totalsOf n m rs v) :=
  Outcome.mapM_eq_ok_iff.mpr
    (.cons (eval_passedOn_groupHaving key v) (.cons (eval_count_group (Registry.provides_full .count) _)
      (.cons (eval_sum_groupHaving hm _ v) .nil)))

theorem project_groupHaving {n m : String} {rs : List Row}
    (hm : ∀ r ∈ rs, ∃ text : String, r.cell? m = some (.text text)) (key : Column)
    (vs : List Value) :
    (Collection.groups (vs.map (groupHaving ⟨[key.name]⟩ n rs))).project Registry.full
        (totalsColumns key m)
      = .ok (.rows (vs.map fun v =>
          ⟨Collection.headersOf (totalsColumns key m), totalsOf n m rs v⟩)) := by
  have hrows : ((vs.map (groupHaving ⟨[key.name]⟩ n rs)).map Entry.group).mapM
      (evalColumns Registry.full (totalsColumns key m)) = .ok (vs.map (totalsOf n m rs)) := by
    rw [List.mapM_map, List.mapM_map]
    exact Outcome.mapM_of_ok fun v _ => evalColumns_groupHaving hm key v
  rw [Collection.project, Collection.entries, hrows]
  show Except.ok (Collection.rows ((vs.map _).map _)) = Except.ok (Collection.rows _)
  rw [List.map_map]
  rfl

/-- The headers of the result: what is left of the name of the column, and the names of the
two calls. -/
def totalsHeaders (n m : String) : Headers :=
  ⟨[(Expr.field ("h." ++ n)).columnName Registry.full, "count",
    "sum-" ++ (Expr.field ("h." ++ m)).columnName Registry.full]⟩

theorem sum_length_rowsHaving {n : String} {rs : List Row}
    (h : ∀ r ∈ rs, (r.cell? n).isSome = true) :
    ((cellsUnder n rs).eraseDups.map fun v => (rowsHaving n v rs).length).sum = rs.length := by
  have hnodup : ((cellsUnder n rs).eraseDups.map some).Nodup :=
    (nodup_eraseDups _).map fun _ _ => Option.some.inj
  have hmem : ∀ r ∈ rs, r.cell? n ∈ (cellsUnder n rs).eraseDups.map some := by
    intro r hr
    obtain ⟨v, hv⟩ := Option.isSome_iff_exists.mp (h r hr)
    rw [hv]
    exact List.mem_map_of_mem (List.mem_eraseDups.mpr (List.mem_filterMap.mpr ⟨r, hr, hv⟩))
  have hsum := sum_length_classes hnodup hmem
  rw [List.map_map] at hsum
  exact hsum

/-- A count of rows is their number, unless there are more than 64 bits can count. -/
theorem toInt_ofNat_length_rowsHaving {n : String} {v : Value} {rs : List Row}
    (h : rs.length < 2 ^ 63) :
    (Int64.ofNat (rowsHaving n v rs).length).toInt = (rowsHaving n v rs).length :=
  Int64.toInt_ofNat_of_lt (Nat.lt_of_le_of_lt (List.length_filter_le _ _) h)

/-- Counts and sums of a table that was read, by the column `n`: one row for every text in
the column, with the number of rows that have the text and the clamped sum, in the order of
the rows, of those of their cells under `m` that spell an integer.  Every row has a text
under either name, and the counts add up to the number of rows. -/
theorem query_totals {delimiter : UInt8} {bytes : List UInt8} {rs : List Row} {n m : String}
    (hread : Csv.readBytes delimiter bytes = .ok rs) (hn : ∀ r ∈ rs, n ∈ r.headers.names)
    (hm : ∀ r ∈ rs, m ∈ r.headers.names) (hcomma : ',' ∉ m.toList) (hbracket : ']' ∉ m.toList) :
    query ["into", "summary", "h." ++ n, "calculate", "f.count", "f.sum[h." ++ m ++ "]"] (.rows rs)
        = .ok (.rows ((cellsUnder n rs).eraseDups.map fun v =>
            ⟨totalsHeaders n m, [v, .integer (Int64.ofNat (rowsHaving n v rs).length),
              .integer (sumClamped ((cellsUnder m (rowsHaving n v rs)).filterMap Value.asInt))]⟩))
      ∧ (∀ r ∈ rs, ∃ s t : String, r.cell? n = some (.text s) ∧ r.cell? m = some (.text t))
      ∧ ((cellsUnder n rs).eraseDups.map fun v => (rowsHaving n v rs).length).sum = rs.length
      ∧ (rs.length < 2 ^ 63 → ∀ v : Value,
          (Int64.ofNat (rowsHaving n v rs).length).toInt = (rowsHaving n v rs).length) := by
  have hcell : ∀ name : String, (∀ r ∈ rs, name ∈ r.headers.names) →
      ∀ r ∈ rs, ∃ text : String, r.cell? name = some (.text text) :=
    fun name hname r hr => Csv.exists_text_of_readBytes hread hr (hname r hr)
  have hkeys : ∀ r ∈ rs, (r.cell? n).isSome = true :=
    fun r hr => isSome_of_text (hcell n hn r hr)
  refine ⟨?_, fun r hr => ?_, sum_length_rowsHaving hkeys,
    fun hsize v => toInt_ofNat_length_rowsHaving hsize⟩
  · have hgroup := @group_header n rs hkeys (Expr.column Registry.full (.field ("h." ++ n))) rfl
    refine query_eq_ok_iff.mpr ⟨_, parse_totals n hcomma hbracket, ?_⟩
    rw [Plan.run, runAll, Plan.run, hgroup]
    dsimp only
    rw [runAll_singleton, Plan.run]
    exact project_groupHaving (hcell m hm) _ _
  · obtain ⟨s, hs⟩ := hcell n hn r hr
    obtain ⟨t, ht⟩ := hcell m hm r hr
    exact ⟨s, t, hs, ht⟩

/-- Three rows under names that are no plain words; two have one text under the first, and
under the second there is a blank around one number and no number in another cell. -/
def sold : List Row :=
  [("x", " 1"), ("y", "-"), ("x", "3")].map fun p =>
    ⟨⟨["k.1", "v[0"]⟩, [.text p.1, .text p.2]⟩

theorem query_totals_sold :
    Csv.readBytes Csv.comma (String.ofList "k.1,v[0\nx, 1\ny,-\nx,3\n".toList).toUTF8.toList
        = .ok sold
      ∧ (∀ r ∈ sold, "k.1" ∈ r.headers.names ∧ "v[0" ∈ r.headers.names)
      ∧ query ["into", "summary", "h.k.1", "calculate", "f.count", "f.sum[h.v[0]"] (.rows sold)
        = .ok (.rows [⟨⟨["k--", "count", "sum-v--"]⟩, [.text "x", .integer 2, .integer 4]⟩,
            ⟨⟨["k--", "count", "sum-v--"]⟩, [.text "y", .integer 1, .integer 0]⟩]) := by
  have hread : Csv.readBytes Csv.comma
      (String.ofList "k.1,v[0\nx, 1\ny,-\nx,3\n".toList).toUTF8.toList = .ok sold := by
    rw [Csv.readBytes_toUTF8 (by decide)]
    rfl
  have htotals := @query_totals Csv.comma _ sold "k.1" "v[0" hread (by decide) (by decide) (by decide)
    (by decide)
  exact ⟨hread, by decide, htotals.1⟩

end RecordQuery
