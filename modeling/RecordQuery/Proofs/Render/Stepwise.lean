/-
# Drawing a grid step by step

A grid can be drawn with a table of widths that starts at zero and is written by index, one
text at a time, and with lengths taken from each other.  Such a drawing can go wrong in two
ways, the faults: an index may lie outside of the table, and a difference may fall below
zero.  `Stepwise` draws in this way and reports the fault, where there is one.

There is none (`Stepwise.ofCollection_eq`), and what is drawn is the grid, whatever the
collection: rows may be longer or shorter than the header, and of different lengths.  Three
facts carry this.

    the table has a column for every text of every row      no index lies outside
    every row fits the widths that come out                 no blank is missing
    a limit leaves room for the dots                        no cell is cut below zero
-/
import RecordQuery.Proofs.Outcome
import RecordQuery.Proofs.Render.Grid

namespace RecordQuery.Grid

/-- Why a step of a drawing cannot be taken. -/
inductive Fault where
  /-- The table of widths has no column at this index. -/
  | outside (index columns : Nat)
  /-- More is to be taken away than there is. -/
  | below (whole part : Nat)
deriving DecidableEq

namespace Stepwise

/-! ## The steps -/

/-- What is left of a length when another is taken away. -/
def minus (m n : Nat) : Except Fault Nat :=
  if n ≤ m then .ok (m - n) else .error (.below m n)

/-- Make the column at an index at least as wide as a text. -/
def raise (table : List Nat) (i : Nat) (text : List Char) : Except Fault (List Nat) :=
  match table[i]? with
  | some w => .ok (table.set i (max w text.length))
  | none => .error (.outside i table.length)

/-- The same for the texts of a row, from the column at an index on. -/
def raiseFrom (i : Nat) (table : List Nat) : List (List Char) → Except Fault (List Nat)
  | [] => .ok table
  | text :: row => do
      let table ← raise table i text
      raiseFrom (i + 1) table row

/-- The number of columns: as many as the longest row has texts. -/
def columns (rows : List (List (List Char))) : Nat :=
  (rows.map List.length).foldr max 0

/-- The widths of the columns, from a table of zeros. -/
def widths (rows : List (List (List Char))) : Except Fault (List Nat) :=
  rows.foldlM (raiseFrom 0) (List.replicate (columns rows) 0)

/-- A cell; one that is cut loses the room for three dots. -/
def cell (limit : Option Nat) (text : List Char) : Except Fault (List Char) :=
  match limit with
  | some limit =>
      if limit < (oneLine text).length then do
        let kept ← minus limit 3
        .ok ((oneLine text).take kept ++ ['.', '.', '.'])
      else .ok (oneLine text)
  | none => .ok (oneLine text)

/-- The columns of a line from an index on; where the row has no text the column is blank. -/
def barsFrom (row : List (List Char)) (i : Nat) : List Nat → Except Fault (List Char)
  | [] => .ok []
  | w :: ws => do
      let text := row[i]?.getD []
      let blanks ← minus w text.length
      let rest ← barsFrom row (i + 1) ws
      .ok (' ' :: text ++ List.replicate (blanks + 1) ' ' ++ '|' :: rest)

/-- The line of a row. -/
def line (ws : List Nat) (row : List (List Char)) : Except Fault (List Char) := do
  let bars ← barsFrom row 0 ws
  .ok ('|' :: bars ++ ['\n'])

/-- The grid of a header and rows; the header comes last in the table of widths. -/
def draw (header : List (List Char)) (rows : List (List (List Char))) :
    Except Fault (List Char) :=
  if columns (rows ++ [header]) = 0 then .ok []
  else do
    let ws ← widths (rows ++ [header])
    let first ← line ws header
    let lines ← rows.mapM (line ws)
    .ok (rule ws ++ first ++ rule ws ++ lines.flatten ++ (if rows.isEmpty then [] else rule ws))

/-- The grid of a collection, with cells up to a requested width. -/
def ofCollection (requested : Option Nat) (c : Collection) : Except Fault (List Char) := do
  let rows ← c.entries.mapM fun e =>
    e.cells.mapM fun text => cell (requested.map limitOf) text.toList
  draw (headerOf c) rows

/-! ## The table of widths -/

/-- A table with a column for every text of the row is widened by all of them. -/
theorem raiseFrom_eq {row : List (List Char)} (front : List Nat) {table : List Nat}
    (h : row.length ≤ table.length) :
    raiseFrom front.length (front ++ table) row
      = .ok (front ++ widen table (row.map List.length)) := by
  induction row generalizing front table with
  | nil =>
      rw [raiseFrom, List.map_nil, widen_nil]
  | cons text row ih =>
      cases table with
      | nil => exact absurd h (Nat.not_succ_le_zero _)
      | cons w table =>
          have hraise : raise (front ++ w :: table) front.length text
              = .ok ((front ++ [max w text.length]) ++ table) := by
            simp [raise]
          have hnext := ih (front ++ [max w text.length]) (Nat.le_of_succ_le_succ h)
          rw [List.length_append, List.length_singleton] at hnext
          rw [raiseFrom, hraise]
          show raiseFrom (front.length + 1) ((front ++ [max w text.length]) ++ table) row = _
          rw [hnext, List.append_assoc]
          rfl

theorem length_widths (rows : List (List (List Char))) :
    (Grid.widths rows).length = columns rows := by
  induction rows with
  | nil => rfl
  | cons row rows ih =>
      rw [widths_cons, length_widen, ih, List.length_map]
      rfl

/-- Rows that the table has columns for widen it one after the other. -/
theorem foldlM_raiseFrom_eq {rows : List (List (List Char))} {table : List Nat}
    (h : ∀ row ∈ rows, row.length ≤ table.length) :
    rows.foldlM (raiseFrom 0) table
      = .ok (rows.foldl (fun ws row => widen ws (row.map List.length)) table) := by
  induction rows generalizing table with
  | nil => rfl
  | cons row rows ih =>
      obtain ⟨hrow, hrows⟩ := List.forall_mem_cons.mp h
      have hstep : raiseFrom 0 table row = .ok (widen table (row.map List.length)) :=
        raiseFrom_eq [] hrow
      have hnext : ∀ row' ∈ rows, row'.length ≤ (widen table (row.map List.length)).length := by
        intro row' hrow'
        rw [length_widen]
        exact Nat.le_trans (hrows row' hrow') (Nat.le_max_left _ _)
      rw [List.foldlM_cons, hstep]
      exact ih hnext

theorem widths_eq (rows : List (List (List Char))) : widths rows = .ok (Grid.widths rows) := by
  have hcolumns : ∀ row ∈ rows, row.length ≤ (List.replicate (columns rows) 0).length := by
    intro row hrow
    rw [List.length_replicate, ← length_widths]
    exact (fits_widths hrow).length_le
  have hzeros : columns rows ≤ (Grid.widths rows).length := Nat.le_of_eq (length_widths rows).symm
  rw [widths, foldlM_raiseFrom_eq hcolumns, foldl_widen, widen_zeros hzeros]

/-! ## Cells and lines -/

theorem minus_eq {m n : Nat} (h : n ≤ m) : minus m n = .ok (m - n) :=
  if_pos h

/-- Every limit that a requested width sets leaves room for the dots. -/
theorem cell_eq (requested : Option Nat) (text : List Char) :
    cell (requested.map limitOf) text = .ok (Grid.cell (requested.map limitOf) text) := by
  cases requested with
  | none => rfl
  | some n =>
      have hroom : 3 ≤ limitOf n := Nat.le_trans (by decide) (Nat.le_max_right n 4)
      simp only [Option.map_some, cell, minus_eq hroom]
      by_cases h : limitOf n < text.length
      · rw [cell_of_exceeds h, if_pos (by rwa [length_oneLine])]
        rfl
      · rw [cell_of_fits fun l hl => Option.some.inj hl ▸ Nat.le_of_not_lt h,
          if_neg (by rwa [length_oneLine])]

theorem barsFrom_eq {row : List (List Char)} {i : Nat} {ws : List Nat}
    (h : Fits ws (row.drop i)) : barsFrom row i ws = .ok (bars ws (row.drop i)) := by
  induction ws generalizing i with
  | nil => rfl
  | cons w ws ih =>
      have hhead : row[i]?.getD [] = (row.drop i).headD [] := by
        rw [List.headD_eq_head?_getD, List.head?_drop]
      have htail : (row.drop i).tail = row.drop (i + 1) := List.tail_drop
      rw [barsFrom, bars, hhead, minus_eq h.length_headD_le, htail, ih (htail ▸ h.tail)]
      rfl

theorem line_eq {ws : List Nat} {row : List (List Char)} (h : Fits ws row) :
    line ws row = .ok (Grid.line ws row) := by
  rw [line, barsFrom_eq (i := 0) h]
  rfl

/-! ## Grids -/

theorem draw_eq (header : List (List Char)) (rows : List (List (List Char))) :
    draw header rows = .ok (Grid.draw header rows) := by
  have hheader : line (Grid.widths (header :: rows)) header
      = .ok (Grid.line (Grid.widths (header :: rows)) header) :=
    line_eq (fits_widths List.mem_cons_self)
  have hlines : rows.mapM (line (Grid.widths (header :: rows)))
      = .ok (rows.map (Grid.line (Grid.widths (header :: rows)))) :=
    Outcome.mapM_of_ok fun row hrow => line_eq (fits_widths (List.mem_cons_of_mem _ hrow))
  rw [draw, Grid.draw, ← length_widths, widths_eq, widths_concat]
  by_cases hnone : Grid.widths (header :: rows) = []
  · rw [hnone]
    rfl
  · rw [if_neg (fun h => hnone (List.length_eq_zero_iff.mp h))]
    simp only [List.isEmpty_iff, if_neg hnone]
    refine Outcome.bind_eq_ok_iff.mpr ⟨_, rfl, Outcome.bind_eq_ok_iff.mpr ⟨_, hheader, ?_⟩⟩
    exact Outcome.bind_eq_ok_iff.mpr ⟨_, hlines, rfl⟩

theorem ofCollection_eq (requested : Option Nat) (c : Collection) :
    ofCollection requested c = .ok (Grid.ofCollection requested c) := by
  have hrows : (c.entries.mapM fun e =>
      e.cells.mapM fun text => cell (requested.map limitOf) text.toList)
        = .ok (rowsOf requested c) :=
    Outcome.mapM_of_ok fun e _ => Outcome.mapM_of_ok fun text _ => cell_eq requested text.toList
  rw [ofCollection, hrows]
  exact draw_eq (headerOf c) (rowsOf requested c)

end Stepwise

/-! ## The geometry of a grid -/

/-- No step of a drawing goes wrong, all lines come out equally long, and a cell is the text
put on one line or, past the limit, as much of it as there is room for in front of the dots. -/
theorem ofCollection_geometry (requested : Option Nat) (c : Collection) :
    Stepwise.ofCollection requested c = .ok (ofCollection requested c)
      ∧ (∃ l, rule (widths (headerOf c :: rowsOf requested c)) = l ++ ['\n']
        ∧ l.length = 1 + ((widths (headerOf c :: rowsOf requested c)).map (· + 3)).sum)
      ∧ (∀ row ∈ headerOf c :: rowsOf requested c,
        ∃ l, line (widths (headerOf c :: rowsOf requested c)) row = l ++ ['\n']
          ∧ l.length = 1 + ((widths (headerOf c :: rowsOf requested c)).map (· + 3)).sum)
      ∧ ∀ e ∈ c.entries, ∀ text ∈ e.cells,
        ((∀ n, requested = some n → text.length ≤ max 4 n) →
            cell (requested.map limitOf) text.toList = oneLine text.toList)
          ∧ ∀ n, requested = some n → max 4 n < text.length →
            (cell (requested.map limitOf) text.toList).length = max 4 n
              ∧ ['.', '.', '.'] <:+ cell (requested.map limitOf) text.toList := by
  refine ⟨Stepwise.ofCollection_eq requested c, ⟨_, rule_eq _, length_ruleBody _⟩, ?_, ?_⟩
  · intro row hrow
    exact ⟨_, congrFun (line_eq _) row, (fits_widths hrow).length_lineBody⟩
  · intro e _ text _
    constructor
    · intro hfits
      refine cell_of_fits fun l hl => ?_
      obtain ⟨n, hn, rfl⟩ := Option.map_eq_some_iff.mp hl
      rw [limitOf, Nat.max_comm]
      exact hfits n hn
    · rintro n rfl hexceeds
      have hlimit : limitOf n = max 4 n := Nat.max_comm n 4
      rw [Option.map_some, hlimit, cell_of_exceeds hexceeds]
      refine ⟨?_, List.suffix_append _ _⟩
      rw [List.length_append, List.length_take, length_oneLine]
      simp only [List.length_cons, List.length_nil, String.length_toList] at hexceeds ⊢
      omega

end RecordQuery.Grid
