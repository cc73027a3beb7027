/-
# Every step keeps a collection rectangular

    filter   a choice among the records
    sort     the same records in another order
    table    one row for every record, under the columns
    group    one group for every key, under the columns; its members are a choice among
             the records, and at least the one whose key it is

The first two keep the names and the others make new ones, whatever the records were like
in a table, while a group is rectangular only because its members come from a rectangular
collection.  `rectangular_run` is the induction over a plan.
-/
import RecordQuery.Proofs.Csv.Table
import RecordQuery.Proofs.Plan.Filter
import RecordQuery.Proofs.Plan.Group
import RecordQuery.Proofs.Plan.Sort
import RecordQuery.Proofs.Query.Parse
import RecordQuery.Query

namespace RecordQuery

variable {fs : Registry} {c c' : Collection}

namespace Collection

/-! ## One step -/

theorem rectangular_compact {keep : Entry → Except EvalError Bool} (hc : c.Rectangular)
    (h : c.compact keep = .ok c') : c'.Rectangular := by
  rw [compact_eq] at h
  obtain ⟨kept, hkept, rfl⟩ := Outcome.map_eq_ok_iff.mp h
  exact hc.ofEntries (keepEach_sublist hkept).subset

theorem rectangular_sort {keys : List Expr} (hc : c.Rectangular)
    (h : c.sort fs keys = .ok c') : c'.Rectangular := by
  rw [sort_eq] at h
  cases h
  exact hc.ofEntries (List.mergeSort_perm c.entries _).subset

/-- A table is rectangular whatever it is made from. -/
theorem rectangular_project {columns : List Column} (h : c.project fs columns = .ok c') :
    c'.Rectangular := by
  obtain ⟨rows, hrows, h⟩ := Outcome.bind_eq_ok_iff.mp h
  cases h
  refine .under (columns.map Column.name) fun e he => ?_
  rw [entries, List.map_map] at he
  obtain ⟨values, hvalues, rfl⟩ := List.mem_map.mp he
  obtain ⟨_, -, heval⟩ := Outcome.exists_of_mem_right (Outcome.mapM_eq_ok_iff.mp hrows) hvalues
  refine @Entry.Rectangular.row ⟨headersOf columns, values⟩ ?_
  rw [Outcome.length_of_mapM heval]
  exact (List.length_map _).symm

theorem rectangular_group {columns : List Column} (hc : c.Rectangular)
    (h : c.group fs columns = .ok c') : c'.Rectangular := by
  rw [group_eq] at h
  obtain ⟨-, -, rfl⟩ := Outcome.map_eq_ok_iff.mp h
  refine .under (columns.map Column.name) fun e he => ?_
  obtain ⟨g, hg, rfl⟩ := List.mem_map.mp he
  have hheaders : g.headers.names = columns.map Column.name := by
    rw [headers_of_mem_groupsFor hg]
    rfl
  have hmembers : g.members.entries ⊆ c.entries := by
    rw [(members_of_mem_groupsFor hg).2]
    exact List.filter_sublist.subset
  rw [← hheaders]
  refine .group ?_ (members_ne_nil hg) (hc.of_subset hmembers)
  rw [length_key_of_mem_groupsFor hg, hheaders, List.length_map]

end Collection

/-! ## The steps of a plan -/

mutual

theorem rectangular_run : ∀ {p : Plan} {c c' : Collection},
    c.Rectangular → p.run fs c = .ok c' → c'.Rectangular
  | .compound ps, _, _, hc, h => by
      rw [Plan.run] at h
      exact rectangular_runAll hc h
  | .filter _, _, _, hc, h => Collection.rectangular_compact hc h
  | .table _, _, _, _, h => Collection.rectangular_project h
  | .group _, _, _, hc, h => Collection.rectangular_group hc h
  | .sort _, _, _, hc, h => Collection.rectangular_sort hc h

theorem rectangular_runAll : ∀ {ps : List Plan} {c c' : Collection},
    c.Rectangular → runAll fs ps c = .ok c' → c'.Rectangular
  | [], _, _, hc, h => by
      cases h
      exact hc
  | p :: ps, _, _, hc, h => by
      rw [runAll] at h
      split at h
      · cases h
      · rename_i c' hp
        exact rectangular_runAll (rectangular_run hc hp) h

end

/-- What is read is rectangular, and what a plan makes of a rectangular collection is
rectangular again.  So a record in the result of a query on what was read has a value
under every column name of the result. -/
theorem rectangular_results :
    (∀ (delimiter : UInt8) (bytes : List UInt8) (rs : List Row),
        Csv.readBytes delimiter bytes = .ok rs → (Collection.rows rs).Rectangular)
      ∧ (∀ (fs : Registry) (p : Plan) (c c' : Collection),
        c.Rectangular → p.run fs c = .ok c' → c'.Rectangular)
      ∧ ∀ (delimiter : UInt8) (bytes : List UInt8) (rs : List Row) (words : List String)
          (c : Collection), Csv.readBytes delimiter bytes = .ok rs →
        query words (.rows rs) = .ok c →
          ∀ e ∈ c.entries, ∀ name ∈ c.columnNames, ∃ v, e.get (Key.column name) = .ok v := by
  refine ⟨fun _ _ _ => Csv.rectangular_readBytes, fun _ _ _ _ => rectangular_run, ?_⟩
  intro delimiter bytes rs words c hread hquery e he name hname
  obtain ⟨p, -, hrun⟩ := query_eq_ok_iff.mp hquery
  have hc : c.Rectangular := rectangular_run (Csv.rectangular_readBytes hread) hrun
  rw [← hc.columnNames_eq he] at hname
  exact hc.get_column he hname

/-- Two rows that are read, and put into one group. -/
def oneGroup : List Row × Collection :=
  let rows := [⟨⟨["n", "m"]⟩, [.text "1", .text "x,y"]⟩, ⟨⟨["n", "m"]⟩, [.text "2", .text "x,y"]⟩]
  (rows, .groups [.mk ⟨["m"]⟩ [.text "x,y"] (.rows rows)])

theorem rectangular_results_oneGroup :
    Csv.readBytes Csv.comma (String.ofList "n,m\n1,\"x,y\"\n2,\"x,y\"\n".toList).toUTF8.toList
        = .ok oneGroup.1
      ∧ query ["into", "summary", "h.m"] (.rows oneGroup.1) = .ok oneGroup.2
      ∧ (Collection.rows oneGroup.1).Rectangular ∧ oneGroup.2.Rectangular
      ∧ ∀ e ∈ oneGroup.2.entries, ∀ name ∈ oneGroup.2.columnNames,
          ∃ v, e.get (Key.column name) = .ok v := by
  have hread : Csv.readBytes Csv.comma
      (String.ofList "n,m\n1,\"x,y\"\n2,\"x,y\"\n".toList).toUTF8.toList = .ok oneGroup.1 := by
    rw [Csv.readBytes_toUTF8 (by decide)]
    rfl
  have hkey : Grammar.SomeValueWords Registry.full ["h.m"] [.field "h.m"] :=
    ⟨.cons ⟨rfl, fun _ h => absurd h List.not_mem_nil⟩ .nil, List.cons_ne_nil _ _⟩
  have hquery : query ["into", "summary", "h.m"] (.rows oneGroup.1) = .ok oneGroup.2 :=
    query_eq_ok_iff.mpr ⟨_, Parser.parse_summary hkey, rfl⟩
  have hrows : (Collection.rows oneGroup.1).Rectangular := rectangular_results.1 _ _ _ hread
  obtain ⟨p, -, hrun⟩ := query_eq_ok_iff.mp hquery
  exact ⟨hread, hquery, hrows, rectangular_results.2.1 _ p _ _ hrows hrun,
    rectangular_results.2.2 _ _ _ _ _ hread hquery⟩

end RecordQuery
