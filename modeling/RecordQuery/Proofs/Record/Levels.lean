/-
# Groups of groups

Underneath a group there are, however many levels down, the rows of a table, and
`tableRows` are these rows in the order in which they are met.

`Collection.Levels x n` says that there are `n` levels of groups above the rows, that every
row has a cell under `x`, and that no group has a value under `x` of its own.  A group then
passes the key `h.x` on to its members and answers with the list of what they answer, so
the cells come up inside one list for every level that they have passed:

    no level        the cells, and a sum reads their elements
    one level       lists of cells, and a sum reads the cells
    more levels     lists of lists, and a sum reads nothing

The last line is `Levels.answers`: a sum opens one list, and what it finds inside is again
a list as soon as two levels have been passed.
-/
import RecordQuery.Proofs.Query.Aggregate
import RecordQuery.Proofs.Record.Column
import RecordQuery.Proofs.Record.Entries
import RecordQuery.Proofs.Record.Lookup
import Mathlib.Tactic.Choose

namespace RecordQuery

/-! ## The rows underneath -/

mutual

/-- The table rows underneath a group. -/
def Group.tableRows : Group → List Row
  | .mk _ _ members => members.tableRows

/-- The table rows of a collection, or underneath its groups. -/
def Collection.tableRows : Collection → List Row
  | .rows rs => rs
  | .groups gs => tableRowsOf gs
  | .blanks _ => []

/-- The table rows underneath some groups, one group after the other. -/
def tableRowsOf : List Group → List Row
  | [] => []
  | g :: gs => g.tableRows ++ tableRowsOf gs

end

/-- The table rows of a record. -/
def Entry.tableRows : Entry → List Row
  | .row r => [r]
  | .group g => g.tableRows
  | .blank => []

theorem tableRowsOf_eq : ∀ gs : List Group, tableRowsOf gs = gs.flatMap Group.tableRows
  | [] => rfl
  | g :: gs => by rw [tableRowsOf, tableRowsOf_eq gs, List.flatMap_cons]

theorem Collection.tableRows_groups (gs : List Group) :
    (Collection.groups gs).tableRows = gs.flatMap Group.tableRows := by
  rw [Collection.tableRows, tableRowsOf_eq]

theorem Group.tableRows_eq (g : Group) : g.tableRows = g.members.tableRows := by
  obtain ⟨headers, key, members⟩ := g
  rw [Group.tableRows, Group.members]

theorem Collection.tableRows_eq (c : Collection) :
    c.tableRows = c.entries.flatMap Entry.tableRows := by
  cases c with
  | rows rs =>
      rw [Collection.tableRows, Collection.entries, List.flatMap_map]
      exact (List.flatMap_singleton' rs).symm
  | groups gs =>
      rw [Collection.tableRows_groups, Collection.entries, List.flatMap_map]
      rfl
  | blanks n =>
      rw [Collection.tableRows, Collection.entries, List.flatMap_eq_nil_iff.mpr]
      intro e he
      rw [(List.mem_replicate.mp he).2]
      rfl

/-! ## Levels -/

/-- There are `n` levels of groups above the rows; every row has a cell under `x`, and no
group has a value of its own there. -/
inductive Collection.Levels (x : String) : Nat → Collection → Prop
  | rows {rs : List Row} :
      (∀ r ∈ rs, (r.cell? x).isSome = true) → Collection.Levels x 0 (.rows rs)
  | groups {n : Nat} {gs : List Group} :
      (∀ g ∈ gs, g.headers.cell? g.key x = none) →
      (∀ g ∈ gs, Collection.Levels x n g.members) → Collection.Levels x (n + 1) (.groups gs)

namespace Collection.Levels

variable {x : String} {n : Nat} {c : Collection}

/-- Any choice among the records is on the same level. -/
theorem ofEntries (h : c.Levels x n) {es : List Entry} (hsub : es ⊆ c.entries) :
    (Collection.ofEntries c.kind es).Levels x n := by
  cases h with
  | rows hrows =>
      refine .rows fun r hr => ?_
      obtain ⟨e, he, her⟩ := List.mem_filterMap.mp hr
      obtain ⟨r', hr', rfl⟩ := List.mem_map.mp (hsub he)
      cases her
      exact hrows r hr'
  | @groups n gs hown hmembers =>
      have hmem : es.filterMap group? ⊆ gs := by
        intro g hg
        obtain ⟨e, he, heg⟩ := List.mem_filterMap.mp hg
        obtain ⟨g', hg', rfl⟩ := List.mem_map.mp (hsub he)
        cases heg
        exact hg'
      exact .groups (fun g hg => hown g (hmem hg)) fun g hg => hmembers g (hmem hg)

end Collection.Levels

/-! ## What comes up through the levels -/

/-- The integers that a sum reads when the cells come up inside this many lists. -/
def integersThrough : Nat → List Value → List Int64
  | 0, cells => integersIn cells
  | 1, cells => cells.filterMap Value.asInt
  | _ + 2, _ => []

theorem integersThrough_flatMap {α : Type} (n : Nat) (l : List α) (f : α → List Value) :
    integersThrough n (l.flatMap f) = l.flatMap fun a => integersThrough n (f a) := by
  match n with
  | 0 => simp only [integersThrough, integersIn, List.flatMap_assoc, List.filterMap_flatMap]
  | 1 => rw [integersThrough, List.filterMap_flatMap]; rfl
  | n + 2 => exact (List.flatMap_eq_nil_iff.mpr fun _ _ => rfl).symm

theorem cellsUnder_flatMap {α : Type} (x : String) (l : List α) (f : α → List Row) :
    cellsUnder x (l.flatMap f) = l.flatMap fun a => cellsUnder x (f a) :=
  List.filterMap_flatMap

/-- A group without a value of its own passes the key on to its members. -/
theorem Group.get_header_of_none {g : Group} {x : String}
    (h : g.headers.cell? g.key x = none) : g.get ("h." ++ x) = g.members.gather ("h." ++ x) := by
  obtain ⟨headers, key, members⟩ := g
  have hnone : headers.cell? key x = none := h
  simp only [Group.get, Group.members, Lookup.ofKey_header, hnone]

namespace Collection.Levels

variable {x : String} {n : Nat} {c : Collection}

/-- Every record answers to `h.x`, and here is what a sum reads from the answers, and what
it will read from the list of them one level higher. -/
theorem answers (h : c.Levels x n) :
    ∃ answers, c.entries.mapM (Entry.get · ("h." ++ x)) = .ok answers
      ∧ integersIn answers = integersThrough n (cellsUnder x c.tableRows)
      ∧ answers.filterMap Value.asInt = integersThrough (n + 1) (cellsUnder x c.tableRows) := by
  induction h with
  | rows hrows => exact ⟨_, mapM_get_header hrows, rfl, rfl⟩
  | @groups n gs hown _ ih =>
      -- What a sum reads here are the members' answers themselves, out of the lists that the
      -- groups put around them; so it is the second statement that the induction needs.
      choose! answersOf hanswers _ hlisted using ih
      have hget : ∀ g ∈ gs, g.get ("h." ++ x) = .ok (.list (answersOf g)) := by
        intro g hg
        rw [Group.get_header_of_none (hown g hg), Collection.gather_eq, hanswers g hg]
      have hrows : cellsUnder x (Collection.groups gs).tableRows
          = gs.flatMap fun g => cellsUnder x g.members.tableRows := by
        rw [Collection.tableRows_groups, cellsUnder_flatMap]
        exact List.flatMap_congr fun g _ => by rw [Group.tableRows_eq]
      refine ⟨gs.map fun g => .list (answersOf g), ?_, ?_, ?_⟩
      · rw [Collection.entries, List.mapM_map]
        exact Outcome.mapM_of_ok hget
      · rw [hrows, integersThrough_flatMap, integersIn, List.flatMap_map, List.filterMap_flatMap]
        exact List.flatMap_congr hlisted
      · rw [List.filterMap_map]
        exact List.filterMap_eq_nil_iff.mpr fun _ _ => rfl

end Collection.Levels

end RecordQuery
