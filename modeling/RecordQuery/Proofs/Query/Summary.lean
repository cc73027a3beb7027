/-
# What becomes of the key columns of a summary

`into summary k … calculate v …` groups by the keys and then makes a table of the groups.
The key columns do not come into the table by their place: each is looked up again under
its name, and a name is found at the first column that has it.

    cell j of the row of a group  =  the value of the first key column
                                     with the name of column j

A name keeps nothing but letters, so keys as different as `h.a1` and `h.a2` are both
called `a-`.  The key of a group comes through as it is exactly when columns of one name
have one value in it (`Group.AgreesByName`), as they must when all names differ.
Otherwise the value of the later column is lost.
-/
import RecordQuery.Proofs.Plan.Group
import RecordQuery.Proofs.Query.Parse
import RecordQuery.Proofs.Record.Column
import RecordQuery.Query

namespace RecordQuery

open Grammar

/-! ## Columns of one name -/

namespace Group

/-- Key columns of one name have one value. -/
def AgreesByName (g : Group) : Prop :=
  ∀ i j : Nat, g.headers.names[i]? = g.headers.names[j]? → g.key[i]? = g.key[j]?

theorem agreesByName_of_nodup {g : Group} (hkey : g.key.length = g.headers.names.length)
    (h : g.headers.names.Nodup) : g.AgreesByName := by
  intro i j hnames
  by_cases hi : i < g.headers.names.length
  · rw [(List.getElem?_inj hi h).mp hnames]
  · have hnone : g.headers.names[i]? = none := List.getElem?_eq_none (Nat.le_of_not_lt hi)
    have hj : g.headers.names.length ≤ j := List.getElem?_eq_none_iff.mp (hnames ▸ hnone)
    rw [List.getElem?_eq_none (hkey ▸ Nat.le_of_not_lt hi), List.getElem?_eq_none (hkey ▸ hj)]

/-- Values that are looked up by the names of the columns are the key itself exactly when
the columns agree by name. -/
theorem eq_key_iff {g : Group} {vs : List Value} (hkey : g.key.length = g.headers.names.length)
    (hvs : vs.length = g.headers.names.length)
    (h : ∀ (j : Nat) (name : String), g.headers.names[j]? = some name →
      vs[j]? = g.key[g.headers.names.idxOf name]?) :
    vs = g.key ↔ g.AgreesByName := by
  constructor
  · rintro rfl i j hnames
    cases hi : g.headers.names[i]? with
    | none =>
        have hi' : g.headers.names.length ≤ i := List.getElem?_eq_none_iff.mp hi
        have hj' : g.headers.names.length ≤ j := List.getElem?_eq_none_iff.mp (hnames ▸ hi)
        rw [List.getElem?_eq_none (hkey ▸ hi'), List.getElem?_eq_none (hkey ▸ hj')]
    | some name => rw [h i name hi, h j name (hnames ▸ hi)]
  · intro hagrees
    refine List.ext_getElem? fun j => ?_
    cases hj : g.headers.names[j]? with
    | none =>
        have hj' : g.headers.names.length ≤ j := List.getElem?_eq_none_iff.mp hj
        rw [List.getElem?_eq_none (hvs ▸ hj'), List.getElem?_eq_none (hkey ▸ hj')]
    | some name =>
        have hmem : name ∈ g.headers.names := List.mem_of_getElem? hj
        have hfirst : g.headers.names[g.headers.names.idxOf name]? = some name := by
          rw [List.getElem?_eq_getElem (List.idxOf_lt_length_of_mem hmem), List.getElem_idxOf]
        rw [h j name hj]
        exact hagrees _ _ (hfirst.trans hj.symm)

end Group

/-- A key column that is passed on has the value of the first column of its name. -/
theorem getElem?_of_evalColumns_passedOn {fs : Registry} {keys calculated : List Column}
    {g : Group} {vs : List Value} (hnames : g.headers.names = keys.map Column.name)
    (hkey : g.key.length = g.headers.names.length)
    (h : evalColumns fs (keys.map Parser.passedOn ++ calculated) (.group g) = .ok vs)
    {j : Nat} {name : String} (hname : g.headers.names[j]? = some name) :
    vs[j]? = g.key[g.headers.names.idxOf name]? := by
  have hcolumn : (keys.map Parser.passedOn ++ calculated)[j]?
      = some ⟨name, .field (Key.column name)⟩ := by
    rw [hnames, List.getElem?_map] at hname
    obtain ⟨key, hkey, rfl⟩ := Option.map_eq_some_iff.mp hname
    have hj : j < keys.length := (List.getElem?_eq_some_iff.mp hkey).1
    rw [List.getElem?_append_left (by rw [List.length_map]; exact hj), List.getElem?_map, hkey]
    rfl
  obtain ⟨v, hv, heval⟩ := Outcome.exists_ok_of_getElem? (Outcome.mapM_eq_ok_iff.mp h) hcolumn
  obtain ⟨v', hv', hget⟩ := @Entry.get_column (.group g) name (List.mem_of_getElem? hname) hkey
  have hsame : Except.ok v = Except.ok v' := heval.symm.trans hget
  rw [hv, Except.ok.inj hsame]
  exact hv'.symm

/-! ## The two queries -/

namespace Parser

variable {fs : Registry}

theorem summary_of_parse {words : List String} {p : Plan}
    (h : Plan.parse fs ("into" :: "summary" :: words) = .ok p) :
    ∃ found, summary fs words = .ok found := by
  obtain ⟨qs, hqs, -⟩ := Outcome.map_eq_ok_iff.mp h
  exact clause_of_clauses hqs

/-- The keys of a summary that can be read are values, every word of them. -/
theorem someValueWords_of_parse {ks : List String} {p : Plan} (hks : ∀ w ∈ ks, InsideList w)
    (h : Plan.parse fs ("into" :: "summary" :: ks) = .ok p) : ∃ es, SomeValueWords fs ks es := by
  obtain ⟨found, hfound⟩ := summary_of_parse h
  obtain ⟨⟨es, rest⟩, hvalues, -⟩ := Outcome.bind_eq_ok_iff.mp hfound
  exact ⟨es, someValueWords_of_someValues hks hvalues⟩

/-- So are the words to calculate. -/
theorem someValueWords_calculate_of_parse {ks cs : List String} {es : List Expr} {p : Plan}
    (hks : SomeValueWords fs ks es) (hcs : ∀ w ∈ cs, InsideList w) (hsome : cs ≠ [])
    (h : Plan.parse fs ("into" :: "summary" :: (ks ++ "calculate" :: cs)) = .ok p) :
    ∃ as, SomeValueWords fs cs as := by
  obtain ⟨found, hfound⟩ := summary_of_parse h
  obtain ⟨⟨es', left⟩, hkeys, hleft⟩ := Outcome.bind_eq_ok_iff.mp hfound
  rw [someValues_complete hks (atTerminator_calculate cs)] at hkeys
  cases hkeys
  obtain ⟨⟨as, rest⟩, hvalues, -⟩ := Outcome.bind_eq_ok_iff.mp hleft
  have hws := valueWords_of_values hcs hvalues
  refine ⟨as, hws, ?_⟩
  rintro rfl
  exact hsome (List.forall₂_nil_right_iff.mp hws)

end Parser

/-! ## The two results -/

/-- The values in front of a row are the key of the group exactly when the key agrees by
name. -/
theorem take_evalColumns_passedOn {fs : Registry} {keys calculated : List Column} {g : Group}
    {vs : List Value} (hnames : g.headers.names = keys.map Column.name)
    (hkey : g.key.length = g.headers.names.length)
    (h : evalColumns fs (keys.map Parser.passedOn ++ calculated) (.group g) = .ok vs) :
    vs.take g.headers.names.length = g.key ↔ g.AgreesByName := by
  have hlength : vs.length = g.headers.names.length + calculated.length := by
    rw [Outcome.length_of_mapM h, hnames, List.length_append, List.length_map, List.length_map]
  apply Group.eq_key_iff hkey
  · rw [List.length_take, hlength]
    exact Nat.min_eq_left (Nat.le_add_right _ _)
  · intro j name hname
    rw [List.getElem?_take_of_lt (List.getElem?_eq_some_iff.mp hname).1]
    exact getElem?_of_evalColumns_passedOn hnames hkey h hname

/-- What becomes of a key of `n` columns in the row that its group is passed on to. -/
structure Group.PassedOn (n : Nat) (g : Group) (r : Row) : Prop where
  key_length : g.key.length = n
  names_length : g.headers.names.length = n
  value_of_name : ∀ (j : Nat) (name : String), g.headers.names[j]? = some name →
    r.values[j]? = g.key[g.headers.names.idxOf name]?
  take_eq_key_iff : r.values.take n = g.key ↔ g.AgreesByName
  agreesByName_of_nodup : g.headers.names.Nodup → g.AgreesByName

theorem run_group_passedOn {fs : Registry} {keys calculated : List Column}
    {c grouped table : Collection} (hgroup : c.group fs keys = .ok grouped)
    (htable : grouped.project fs (keys.map Parser.passedOn ++ calculated) = .ok table) :
    ∃ (gs : List Group) (rs : List Row), grouped = .groups gs ∧ table = .rows rs
      ∧ List.Forall₂ (Group.PassedOn keys.length) gs rs := by
  rw [Collection.group_eq] at hgroup
  obtain ⟨-, -, rfl⟩ := Outcome.map_eq_ok_iff.mp hgroup
  obtain ⟨vs, hvs, h⟩ := Outcome.bind_eq_ok_iff.mp htable
  cases h
  refine ⟨_, _, rfl, rfl, ?_⟩
  have hrows := Outcome.mapM_eq_ok_iff.mp hvs
  rw [Collection.entries, List.forall₂_map_left_iff] at hrows
  rw [List.forall₂_map_right_iff]
  have hgroups := (List.forall₂_and_left _ _).mpr ⟨fun g hg => hg, hrows⟩
  refine hgroups.imp ?_
  rintro g vs ⟨hg, heval⟩
  have hnames : g.headers.names = keys.map Column.name := by
    rw [Collection.headers_of_mem_groupsFor hg]
    rfl
  have hlength : g.headers.names.length = keys.length := by rw [hnames, List.length_map]
  have hkey : g.key.length = keys.length := Collection.length_key_of_mem_groupsFor hg
  have hboth : g.key.length = g.headers.names.length := hkey.trans hlength.symm
  refine ⟨hkey, hlength, fun j name => getElem?_of_evalColumns_passedOn hnames hboth heval, ?_,
    Group.agreesByName_of_nodup hboth⟩
  rw [← hlength]
  exact take_evalColumns_passedOn hnames hboth heval

/-- A summary with and without columns to calculate, for words that are no keywords: one
row for every group, in order.  What stands in the row under a key column is the value of
the first key column of that name, and so the key of the group comes through as it is if
and only if key columns of one name have one value. -/
theorem query_calculate_keys_iff {ks cs : List String} {c grouped calculated : Collection}
    (hks : ∀ w ∈ ks, Parser.InsideList w) (hcs : ∀ w ∈ cs, Parser.InsideList w) (hsome : cs ≠ [])
    (hgrouped : query ("into" :: "summary" :: ks) c = .ok grouped)
    (hcalculated : query ("into" :: "summary" :: (ks ++ "calculate" :: cs)) c = .ok calculated) :
    ∃ (gs : List Group) (rs : List Row), grouped = .groups gs ∧ calculated = .rows rs
      ∧ List.Forall₂ (Group.PassedOn ks.length) gs rs := by
  obtain ⟨p, hp, hgroup⟩ := query_eq_ok_iff.mp hgrouped
  obtain ⟨q, hq, htable⟩ := query_eq_ok_iff.mp hcalculated
  obtain ⟨es, hes⟩ := Parser.someValueWords_of_parse hks hp
  obtain ⟨as, has⟩ := Parser.someValueWords_calculate_of_parse hes hcs hsome hq
  rw [Parser.parse_summary hes] at hp
  rw [Parser.parse_calculate hes has] at hq
  cases hp
  cases hq
  rw [Plan.run, runAll, hgroup] at htable
  dsimp only at htable
  rw [runAll_singleton, Plan.run] at htable
  rw [Plan.run] at hgroup
  have hkeys : ks.length = (es.map (Expr.column Registry.full)).length := by
    rw [List.length_map, hes.each.length_eq]
  rw [hkeys]
  exact run_group_passedOn hgroup htable

/-! ### Two columns with one name -/

/-- Two columns whose names are alike once nothing but letters is left of them. -/
def namesAlike : Collection :=
  .rows [⟨⟨["a1", "a2"]⟩, [.text "x", .text "x"]⟩, ⟨⟨["a1", "a2"]⟩, [.text "x", .text "y"]⟩]

/-- Its rows, each in a group of its own. -/
def groupsAlike : List Group :=
  [.mk ⟨["a-", "a-"]⟩ [.text "x", .text "x"]
      (.rows [⟨⟨["a1", "a2"]⟩, [.text "x", .text "x"]⟩]),
    .mk ⟨["a-", "a-"]⟩ [.text "x", .text "y"]
      (.rows [⟨⟨["a1", "a2"]⟩, [.text "x", .text "y"]⟩])]

/-- The groups with their sizes, as they come out of the table. -/
def rowsAlike : List Row :=
  List.replicate 2 ⟨⟨["a-", "a-", "count"]⟩, [.text "x", .text "x", .integer 1]⟩

theorem someValueWords_namesAlike :
    SomeValueWords Registry.full ["h.a1", "h.a2"] [.field "h.a1", .field "h.a2"] := by
  refine ⟨.cons ⟨rfl, ?_⟩ (.cons ⟨rfl, ?_⟩ .nil), List.cons_ne_nil _ _⟩ <;>
    exact fun _ h => absurd h List.not_mem_nil

theorem query_namesAlike :
    query ["into", "summary", "h.a1", "h.a2"] namesAlike = .ok (.groups groupsAlike) :=
  query_eq_ok_iff.mpr ⟨_, Parser.parse_summary someValueWords_namesAlike, rfl⟩

theorem someValueWords_count :
    SomeValueWords Registry.full ["f.count"] [.call "count" []] :=
  ⟨.cons ⟨rfl, List.forall_mem_singleton.mpr rfl⟩ .nil, List.cons_ne_nil _ _⟩

theorem query_calculate_namesAlike :
    query ["into", "summary", "h.a1", "h.a2", "calculate", "f.count"] namesAlike
      = .ok (.rows rowsAlike) :=
  query_eq_ok_iff.mpr
    ⟨_, Parser.parse_calculate someValueWords_namesAlike someValueWords_count, rfl⟩

/-- Of these groups the first keeps its key. -/
theorem query_calculate_namesAlike_passedOn :
    query ["into", "summary", "h.a1", "h.a2"] namesAlike = .ok (.groups groupsAlike)
      ∧ query ["into", "summary", "h.a1", "h.a2", "calculate", "f.count"] namesAlike
        = .ok (.rows rowsAlike)
      ∧ List.Forall₂ (Group.PassedOn 2) groupsAlike rowsAlike := by
  refine ⟨query_namesAlike, query_calculate_namesAlike, ?_⟩
  obtain ⟨gs, rs, hgs, hrs, hrows⟩ := query_calculate_keys_iff
    (Parser.insideList_of_valueWords someValueWords_namesAlike.each)
    (Parser.insideList_of_valueWords someValueWords_count.each)
    (List.cons_ne_nil _ _) query_namesAlike query_calculate_namesAlike
  cases hgs
  cases hrs
  exact hrows

/-- The second has two values under one name, and its row shows the first of them twice. -/
theorem query_calculate_lostKey :
    query ["into", "summary", "h.a1", "h.a2"] namesAlike = .ok (.groups groupsAlike)
      ∧ query ["into", "summary", "h.a1", "h.a2", "calculate", "f.count"] namesAlike
        = .ok (.rows rowsAlike)
      ∧ groupsAlike.map Group.key = [[.text "x", .text "x"], [.text "x", .text "y"]]
      ∧ rowsAlike.map (fun r => r.values.take 2)
        = [[.text "x", .text "x"], [.text "x", .text "x"]]
      ∧ ¬ List.Forall₂ (fun g r => r.values.take 2 = g.key) groupsAlike rowsAlike := by
  refine ⟨query_namesAlike, query_calculate_namesAlike, rfl, rfl, fun h => ?_⟩
  have hsecond := (List.forall₂_cons.mp (List.forall₂_cons.mp h).2).1
  exact absurd hsecond (by decide)

end RecordQuery
