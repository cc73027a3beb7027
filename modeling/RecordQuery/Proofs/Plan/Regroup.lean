/-
# Totals of groups that are grouped again

Each grouping puts one level of groups on top of what it is given, and the rows underneath
stay the same, in another order (`levels_group`, and `levels_runAll` for any number of
groupings).  So an outermost group has its share of the rows of the table underneath, and
one would expect `f.sum[h.x]` of the group to be the total of their `x` cells.

It is, at two levels.  At one level it is if no cell is a list, and from three levels on
the sum is zero: it finds lists in place of integers, and these it passes over.
-/
import RecordQuery.Proofs.Plan.Group
import RecordQuery.Proofs.Record.Levels

namespace RecordQuery

variable {fs : Registry} {x : String}

/-! ## The levels that groupings make -/

theorem Headers.cell?_of_unlike {h : Headers}
    (hx : ∀ name ∈ h.names, sameIgnoringCase name x = false) (cells : List Value) :
    h.cell? cells x = none := by
  have hnone : h.position x = none := by
    refine (Headers.position_eq_none_iff h x).mpr fun name hname hsame => ?_
    rw [← sameIgnoringCase_iff, hx name hname] at hsame
    cases hsame
  rw [Headers.cell?, hnone, Option.bind_none]

namespace Collection

/-- The step: one level more, above the same rows. -/
theorem levels_group {n : Nat} {columns : List Column} {c grouped : Collection}
    (hc : c.Levels x n) (hx : ∀ column ∈ columns, sameIgnoringCase column.name x = false)
    (h : c.group fs columns = .ok grouped) :
    grouped.Levels x (n + 1) ∧ grouped.tableRows.Perm c.tableRows := by
  obtain ⟨f, -, rfl⟩ := exists_groupsBy_of_group h
  constructor
  · refine .groups (fun g hg => ?_) fun g hg => ?_
    · obtain ⟨key, -, rfl⟩ := List.mem_map.mp hg
      exact Headers.cell?_of_unlike (List.forall_mem_map.mpr hx) key
    · obtain ⟨key, -, rfl⟩ := List.mem_map.mp hg
      exact hc.ofEntries List.filter_sublist.subset
  · have hrows : (Collection.groups (groupsBy (headersOf columns) f c)).tableRows
        = ((groupsBy (headersOf columns) f c).flatMap fun g => g.members.entries).flatMap
            Entry.tableRows := by
      rw [tableRows_groups, List.flatMap_assoc]
      exact List.flatMap_congr fun g _ => by rw [Group.tableRows_eq, tableRows_eq]
    rw [hrows, c.tableRows_eq]
    exact (flatMap_members_perm _ f c).flatMap_right _

/-- The run: a level more for every grouping. -/
theorem levels_runAll : ∀ {levels : List (List Column)} {n : Nat} {c grouped : Collection},
    c.Levels x n →
    (∀ columns ∈ levels, ∀ column ∈ columns, sameIgnoringCase column.name x = false) →
    runAll fs (levels.map Plan.group) c = .ok grouped →
      grouped.Levels x (n + levels.length) ∧ grouped.tableRows.Perm c.tableRows
  | [], n, c, grouped, hc, _, h => by
      cases h
      exact ⟨hc, .refl _⟩
  | columns :: levels, n, c, grouped, hc, hx, h => by
      obtain ⟨hcolumns, hlevels⟩ := List.forall_mem_cons.mp hx
      rw [List.map_cons, runAll] at h
      split at h
      · cases h
      · rename_i once honce
        obtain ⟨hlevel, hrows⟩ := levels_group hc hcolumns honce
        obtain ⟨hrest, hrows'⟩ := levels_runAll hlevel hlevels h
        rw [List.length_cons, Nat.add_comm levels.length, ← Nat.add_assoc]
        exact ⟨hrest, hrows'.trans hrows⟩

end Collection

/-! ## The sum of an outermost group -/

/-- The `x` cells underneath a group that are read as integers. -/
def Group.integersUnder (x : String) (g : Group) : List Int64 :=
  (cellsUnder x g.tableRows).filterMap Value.asInt

/-- The total of the `x` cells underneath a group. -/
def Group.total (x : String) (g : Group) : Int :=
  ((g.integersUnder x).map Int64.toInt).sum

/-- The sum is the total as long as the cells come up inside one list, or in none. -/
theorem toInt_sumClamped_integersThrough_iff {n : Nat} {cells : List Value}
    (hfit : PartialSumsFit (cells.filterMap Value.asInt))
    (hcells : n = 0 → ∀ vs, Value.list vs ∉ cells) :
    (sumClamped (integersThrough n cells)).toInt
        = ((cells.filterMap Value.asInt).map Int64.toInt).sum
      ↔ n ≤ 1 ∨ ((cells.filterMap Value.asInt).map Int64.toInt).sum = 0 := by
  match n with
  | 0 =>
      rw [integersThrough, integersIn_of_noList (hcells rfl)]
      exact ⟨fun _ => Or.inl (Nat.zero_le 1), fun _ => toInt_sumClamped hfit⟩
  | 1 =>
      rw [integersThrough]
      exact ⟨fun _ => Or.inl (Nat.le_refl 1), fun _ => toInt_sumClamped hfit⟩
  | n + 2 =>
      have hzero : (sumClamped (integersThrough (n + 2) cells)).toInt = 0 := rfl
      rw [hzero]
      constructor
      · exact fun h => Or.inr h.symm
      · rintro (h | h)
        · omega
        · exact h.symm

/-- Groupings one after the other of a table that has a cell under `x` in every row, by
columns none of which is called `x`.  The outermost groups have the rows of the table
underneath.  What `f.sum[h.x]` makes of such a group depends on the number of groupings;
where no partial sum leaves the range and, for one grouping, no cell is a list, it is the
total of the `x` cells underneath if there are at most two groupings, and otherwise only if
that total is zero. -/
theorem sum_regrouped_iff {first : List Column} {rest : List (List Column)} {rs : List Row}
    {grouped : Collection} (hsum : fs.Provides .sum)
    (hcell : ∀ r ∈ rs, (r.cell? x).isSome = true)
    (hx : ∀ columns ∈ first :: rest, ∀ column ∈ columns, sameIgnoringCase column.name x = false)
    (h : (Plan.compound ((first :: rest).map Plan.group)).run fs (.rows rs) = .ok grouped) :
    ∃ gs : List Group, grouped = .groups gs
      ∧ (gs.flatMap Group.tableRows).Perm rs
      ∧ ∀ g ∈ gs,
          (Expr.call "sum" [.field ("h." ++ x)]).eval fs (.group g)
            = .ok (.integer (sumClamped (integersThrough rest.length (cellsUnder x g.tableRows))))
          ∧ (PartialSumsFit (g.integersUnder x) →
              (rest = [] → ∀ vs, Value.list vs ∉ cellsUnder x g.tableRows) →
                ((∃ sum : Int64, (Expr.call "sum" [.field ("h." ++ x)]).eval fs (.group g)
                    = .ok (.integer sum) ∧ sum.toInt = g.total x)
                  ↔ (first :: rest).length ≤ 2 ∨ g.total x = 0)) := by
  rw [Plan.run] at h
  obtain ⟨hlevels, hrows⟩ := Collection.levels_runAll (.rows hcell) hx h
  rw [Nat.zero_add, List.length_cons] at hlevels
  cases hlevels with
  | @groups _ gs _ hmembers =>
      rw [Collection.tableRows_groups] at hrows
      refine ⟨gs, rfl, hrows, fun g hg => ?_⟩
      obtain ⟨answers, hanswers, hread, -⟩ := (hmembers g hg).answers
      rw [← Group.tableRows_eq] at hread
      have heval := eval_sum_group hsum hanswers
      rw [hread] at heval
      refine ⟨heval, fun hfit hlist => ?_⟩
      have hexact := toInt_sumClamped_integersThrough_iff hfit
        fun hnone => hlist (List.length_eq_zero_iff.mp hnone)
      rw [heval, List.length_cons, Nat.succ_le_succ_iff]
      constructor
      · rintro ⟨sum, hsum, htotal⟩
        cases hsum
        exact hexact.mp htotal
      · exact fun hsmall => ⟨_, rfl, hexact.mpr hsmall⟩

/-! ### Three rows, grouped again and again -/

/-- Three rows, with their places under `a`, `b` and `c` and a number under `x`. -/
def placed : List Row :=
  [("q", "r", "1"), ("q", "s", "2"), ("t", "u", "3")].map fun p =>
    ⟨⟨["a", "b", "c", "x"]⟩, [.text "p", .text p.1, .text p.2.1, .text p.2.2]⟩

/-- The fields of these names. -/
def fieldColumns (names : List String) : List Column :=
  names.map fun name => ⟨name, .field ("h." ++ name)⟩

/-- Two groupings: the sum is the total. -/
theorem sum_placed_two :
    ∃ g : Group, (Plan.compound ([["a", "b"], ["a"]].map (Plan.group ∘ fieldColumns))).run
        Registry.full (.rows placed) = .ok (.groups [g])
      ∧ g.total "x" = 6
      ∧ ∃ sum : Int64, (Expr.call "sum" [.field "h.x"]).eval Registry.full (.group g)
          = .ok (.integer sum) ∧ sum.toInt = g.total "x" := by
  refine ⟨_, rfl, rfl, ?_⟩
  obtain ⟨gs, hgs, -, hsums⟩ := @sum_regrouped_iff Registry.full "x" (fieldColumns ["a", "b"])
    [fieldColumns ["a"]] placed _ (Registry.provides_full .sum) (by decide) (by decide) rfl
  cases hgs
  exact ((hsums _ List.mem_cons_self).2 (by decide) nofun).mpr (Or.inl (Nat.le_refl 2))

/-- Three groupings of the same rows: the sum is zero, and the total is not. -/
theorem sum_placed_three :
    ∃ g : Group, (Plan.compound ([["a", "b", "c"], ["a", "b"], ["a"]].map
        (Plan.group ∘ fieldColumns))).run Registry.full (.rows placed) = .ok (.groups [g])
      ∧ (∀ r ∈ placed, (r.cell? "x").isSome = true)
      ∧ (∀ name ∈ ["a", "b", "c"], sameIgnoringCase name "x" = false)
      ∧ g.tableRows = placed
      ∧ g.integersUnder "x" = [1, 2, 3]
      ∧ PartialSumsFit (g.integersUnder "x")
      ∧ g.total "x" = 6
      ∧ (Expr.call "sum" [.field "h.x"]).eval Registry.full (.group g) = .ok (.integer 0) :=
  ⟨_, rfl, by decide, by decide, rfl, by decide, by decide, by decide, rfl⟩

end RecordQuery
