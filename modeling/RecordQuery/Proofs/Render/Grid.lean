/-
# The lines of a grid

The widths of a grid are the maximum over all rows, the header among them, so every row
fits (`fits_widths`): it has no more texts than there are columns, and no text is longer than
its column is wide.  From that alone all lines come out equally long (`Fits.length_bars`,
`length_ruleBody`).

A grid is then a list of lines, each with a line feed behind it (`draw_eq`):

    rule, header, rule, one line for every record, rule

Whether these are the lines that a reader sees is another question.  A cell is cleaned of
line ends before it is drawn, so no record is broken over two lines; a column name is drawn as
it is, and one with a line end in it breaks the line of the header.
-/
import RecordQuery.Render.Grid
import Mathlib.Algebra.GroupWithZero.Nat

namespace RecordQuery.Grid

/-! ## Widths -/

theorem length_widen (vs ws : List Nat) : (widen vs ws).length = max vs.length ws.length := by
  induction vs generalizing ws with
  | nil => rw [widen, List.length_nil, Nat.zero_max]
  | cons v vs ih =>
      cases ws with
      | nil => rfl
      | cons w ws => rw [widen, List.length_cons, ih, List.length_cons, List.length_cons,
          Nat.succ_max_succ]

theorem widen_nil (ws : List Nat) : widen ws [] = ws := by
  cases ws <;> rfl

theorem widen_comm (vs ws : List Nat) : widen vs ws = widen ws vs := by
  induction vs generalizing ws with
  | nil => rw [widen, widen_nil]
  | cons v vs ih =>
      cases ws with
      | nil => rfl
      | cons w ws => rw [widen, widen, ih, Nat.max_comm]

theorem widen_assoc (us vs ws : List Nat) : widen (widen us vs) ws = widen us (widen vs ws) := by
  induction us generalizing vs ws with
  | nil => rfl
  | cons u us ih =>
      cases vs with
      | nil => rfl
      | cons v vs =>
          cases ws with
          | nil => rfl
          | cons w ws => rw [widen, widen, widen, widen, ih, Nat.max_assoc]

/-- Zeros widen nothing. -/
theorem widen_zeros {n : Nat} {ws : List Nat} (h : n ≤ ws.length) :
    widen (List.replicate n 0) ws = ws := by
  induction n generalizing ws with
  | zero => rfl
  | succ n ih =>
      cases ws with
      | nil => exact absurd h (Nat.not_succ_le_zero n)
      | cons w ws => rw [List.replicate_succ, widen, ih (Nat.le_of_succ_le_succ h), Nat.zero_max]

theorem foldl_widen (ws : List Nat) (rows : List (List (List Char))) :
    rows.foldl (fun ws row => widen ws (row.map List.length)) ws = widen ws (widths rows) := by
  induction rows generalizing ws with
  | nil => exact (widen_nil ws).symm
  | cons row rows ih =>
      have hwidths : widths (row :: rows) = widen (row.map List.length) (widths rows) :=
        ih (row.map List.length)
      rw [List.foldl_cons, ih, hwidths, widen_assoc]

theorem widths_cons (row : List (List Char)) (rows : List (List (List Char))) :
    widths (row :: rows) = widen (row.map List.length) (widths rows) :=
  foldl_widen (row.map List.length) rows

/-- It does not matter whether the header comes first or last. -/
theorem widths_concat (header : List (List Char)) (rows : List (List (List Char))) :
    widths (rows ++ [header]) = widths (header :: rows) := by
  rw [widths_cons, widen_comm, widths, List.foldl_append]
  rfl

/-! ## Rows that fit -/

/-- The row has a column for every text, and no text is longer than its column is wide. -/
inductive Fits : List Nat → List (List Char) → Prop
  | nil (ws : List Nat) : Fits ws []
  | cons {w : Nat} {ws : List Nat} {text : List Char} {row : List (List Char)} :
      text.length ≤ w → Fits ws row → Fits (w :: ws) (text :: row)

variable {ws vs : List Nat} {row : List (List Char)}

theorem Fits.widen (h : Fits ws row) (vs : List Nat) : Fits (widen ws vs) row := by
  induction h generalizing vs with
  | nil ws => exact .nil _
  | cons htext hrow ih =>
      cases vs with
      | nil => exact .cons htext hrow
      | cons v vs => exact .cons (Nat.le_trans htext (Nat.le_max_left _ _)) (ih vs)

theorem fits_widen_lengths (ws : List Nat) (row : List (List Char)) :
    Fits (widen ws (row.map List.length)) row := by
  induction row generalizing ws with
  | nil => exact .nil _
  | cons text row ih =>
      cases ws with
      | nil => exact .cons (Nat.le_refl _) (ih [])
      | cons w ws => exact .cons (Nat.le_max_right _ _) (ih ws)

theorem fits_widths {rows : List (List (List Char))} (h : row ∈ rows) :
    Fits (widths rows) row := by
  induction rows with
  | nil => exact absurd h List.not_mem_nil
  | cons first rows ih =>
      rw [widths_cons, widen_comm]
      obtain rfl | hrest := List.mem_cons.mp h
      · exact fits_widen_lengths _ _
      · exact (ih hrest).widen _

theorem Fits.ne_nil (h : Fits ws row) (hrow : row ≠ []) : ws ≠ [] := by
  cases h with
  | nil => exact absurd rfl hrow
  | cons => exact List.cons_ne_nil _ _

theorem Fits.length_le (h : Fits ws row) : row.length ≤ ws.length := by
  induction h with
  | nil => exact Nat.zero_le _
  | cons _ _ ih => exact Nat.succ_le_succ ih

theorem Fits.length_headD_le {w : Nat} (h : Fits (w :: ws) row) : (row.headD []).length ≤ w := by
  cases h with
  | nil => exact Nat.zero_le w
  | cons htext _ => exact htext

theorem Fits.tail {w : Nat} (h : Fits (w :: ws) row) : Fits ws row.tail := by
  cases h with
  | nil => exact .nil ws
  | cons _ hrow => exact hrow

/-! ## The length of a line -/

/-- The characters of a line between its two ends: a column takes its width, the two blanks
around it and a bar. -/
def span (ws : List Nat) : Nat :=
  (ws.map (· + 3)).sum

theorem Fits.length_bars (h : Fits ws row) : (bars ws row).length = span ws := by
  induction ws generalizing row with
  | nil => rfl
  | cons w ws ih =>
      have hrest : (bars ws row.tail).length = span ws := ih h.tail
      have htext : (row.headD []).length ≤ w := h.length_headD_le
      simp only [bars, span, List.length_cons, List.length_append, List.length_replicate,
        List.map_cons, List.sum_cons] at hrest ⊢
      omega

/-- A rule without its line feed. -/
def ruleBody (ws : List Nat) : List Char :=
  '+' :: ws.flatMap fun w => List.replicate (w + 2) '-' ++ ['+']

/-- The line of a row without its line feed. -/
def lineBody (ws : List Nat) (row : List (List Char)) : List Char :=
  '|' :: bars ws row

theorem rule_eq (ws : List Nat) : rule ws = ruleBody ws ++ ['\n'] :=
  rfl

theorem line_eq (ws : List Nat) : line ws = fun row => lineBody ws row ++ ['\n'] :=
  rfl

theorem length_ruleBody (ws : List Nat) : (ruleBody ws).length = 1 + span ws := by
  have hcolumns : (ws.flatMap fun w => List.replicate (w + 2) '-' ++ ['+']).length = span ws := by
    induction ws with
    | nil => rfl
    | cons w ws ih =>
        simp only [List.flatMap_cons, List.length_append, ih, List.length_replicate,
          List.length_singleton, span, List.map_cons, List.sum_cons]
  rw [ruleBody, List.length_cons, hcolumns, Nat.add_comm]

theorem Fits.length_lineBody (h : Fits ws row) : (lineBody ws row).length = 1 + span ws := by
  rw [lineBody, List.length_cons, h.length_bars, Nat.add_comm]

/-! ## The characters of a line -/

theorem mem_ruleBody {ws : List Nat} {c : Char} (h : c ∈ ruleBody ws) : c = '+' ∨ c = '-' := by
  rw [ruleBody, List.mem_cons, List.mem_flatMap] at h
  obtain rfl | ⟨w, -, hc⟩ := h
  · exact Or.inl rfl
  · rw [List.mem_append, List.mem_singleton] at hc
    exact hc.symm.imp id List.eq_of_mem_replicate

theorem mem_bars {ws : List Nat} {row : List (List Char)} {c : Char} (h : c ∈ bars ws row) :
    c = ' ' ∨ c = '|' ∨ ∃ text ∈ row, c ∈ text := by
  induction ws generalizing row with
  | nil => exact absurd h List.not_mem_nil
  | cons w ws ih =>
      simp only [bars, List.cons_append, List.append_assoc, List.mem_cons, List.mem_append,
        List.mem_replicate] at h
      obtain hc | hc | ⟨-, hc⟩ | hc | hc := h
      · exact Or.inl hc
      · cases row with
        | nil => exact absurd hc List.not_mem_nil
        | cons text row => exact Or.inr (Or.inr ⟨text, List.mem_cons_self, hc⟩)
      · exact Or.inl hc
      · exact Or.inr (Or.inl hc)
      · obtain hc | hc | ⟨text, htext, hc⟩ := ih hc
        · exact Or.inl hc
        · exact Or.inr (Or.inl hc)
        · exact Or.inr (Or.inr ⟨text, List.mem_of_mem_tail htext, hc⟩)

/-- Every text of a row that fits stands in its line. -/
theorem Fits.stands_in_bars (h : Fits ws row) {text : List Char} (htext : text ∈ row) :
    text <:+: bars ws row := by
  induction h with
  | nil => exact absurd htext List.not_mem_nil
  | @cons w ws first row _ _ ih =>
      obtain rfl | hrest := List.mem_cons.mp htext
      · exact ⟨[' '], List.replicate (w - text.length + 1) ' ' ++ '|' :: bars ws row, by
          simp [bars]⟩
      · refine (ih hrest).trans (List.IsSuffix.isInfix ⟨' ' :: first
          ++ List.replicate (w - first.length + 1) ' ' ++ ['|'], ?_⟩)
        simp [bars]

theorem Fits.stands_in_lineBody (h : Fits ws row) {text : List Char} (htext : text ∈ row) :
    text <:+: lineBody ws row :=
  (h.stands_in_bars htext).trans (List.suffix_cons _ _).isInfix

/-! ## Cells -/

/-- The text on one line: a blank stands for every line end. -/
def oneLine (text : List Char) : List Char :=
  text.map fun c => if c = '\n' ∨ c = '\r' then ' ' else c

theorem length_oneLine (text : List Char) : (oneLine text).length = text.length :=
  List.length_map _

/-- A text within the limit is only put on one line. -/
theorem cell_of_fits {limit : Option Nat} {text : List Char}
    (h : ∀ l, limit = some l → text.length ≤ l) : cell limit text = oneLine text := by
  cases limit with
  | none => rfl
  | some l =>
      have hfits : ¬ l < (oneLine text).length := by
        rw [length_oneLine]
        exact Nat.not_lt.mpr (h l rfl)
      exact if_neg hfits

/-- A longer one keeps what there is room for in front of the dots. -/
theorem cell_of_exceeds {l : Nat} {text : List Char} (h : l < text.length) :
    cell (some l) text = (oneLine text).take (l - 3) ++ ['.', '.', '.'] := by
  rw [← length_oneLine] at h
  exact if_pos h

/-- There is no line end in the text. -/
def Unbroken (text : List Char) : Prop :=
  '\n' ∉ text ∧ '\r' ∉ text

theorem unbroken_iff {text : List Char} : Unbroken text ↔ ∀ c ∈ text, c ≠ '\n' ∧ c ≠ '\r' := by
  constructor
  · rintro ⟨hfeed, hreturn⟩ c hc
    exact ⟨fun h => hfeed (h ▸ hc), fun h => hreturn (h ▸ hc)⟩
  · intro h
    exact ⟨fun hc => (h _ hc).1 rfl, fun hc => (h _ hc).2 rfl⟩

theorem unbroken_append {front back : List Char} (hfront : Unbroken front) (hback : Unbroken back) :
    Unbroken (front ++ back) := by
  simp only [Unbroken, List.mem_append, not_or]
  exact ⟨⟨hfront.1, hback.1⟩, hfront.2, hback.2⟩

theorem unbroken_oneLine (text : List Char) : Unbroken (oneLine text) := by
  rw [unbroken_iff]
  intro c hc
  obtain ⟨d, -, rfl⟩ := List.mem_map.mp hc
  by_cases hd : d = '\n' ∨ d = '\r'
  · rw [if_pos hd]
    decide
  · rw [if_neg hd]
    exact not_or.mp hd

theorem unbroken_cell (limit : Option Nat) (text : List Char) : Unbroken (cell limit text) := by
  by_cases hfits : ∀ l, limit = some l → text.length ≤ l
  · rw [cell_of_fits hfits]
    exact unbroken_oneLine text
  · simp only [not_forall, Nat.not_le] at hfits
    obtain ⟨l, rfl, hexceeds⟩ := hfits
    rw [cell_of_exceeds hexceeds]
    have hkept : Unbroken ((oneLine text).take (l - 3)) :=
      ⟨fun h => (unbroken_oneLine text).1 (List.mem_of_mem_take h),
        fun h => (unbroken_oneLine text).2 (List.mem_of_mem_take h)⟩
    have hdots : Unbroken ['.', '.', '.'] := ⟨by decide, by decide⟩
    exact unbroken_append hkept hdots

/-! ## The grid as a list of lines -/

/-- The lines of a grid with at least one row, each without its line feed. -/
def drawnLines (header : List (List Char)) (rows : List (List (List Char))) : List (List Char) :=
  let ws := widths (header :: rows)
  ruleBody ws :: lineBody ws header :: ruleBody ws :: rows.map (lineBody ws) ++ [ruleBody ws]

theorem draw_eq {header : List (List Char)} {rows : List (List (List Char))} (hrows : rows ≠ [])
    (hcolumn : ∃ row ∈ header :: rows, row ≠ []) :
    draw header rows = (drawnLines header rows).flatMap (· ++ ['\n']) := by
  obtain ⟨row, hrow, hne⟩ := hcolumn
  have hwidths : (widths (header :: rows)).isEmpty = false := by
    rw [List.isEmpty_eq_false_iff]
    exact (fits_widths hrow).ne_nil hne
  have hsome : rows.isEmpty = false := by rwa [List.isEmpty_eq_false_iff]
  simp only [draw, hwidths, hsome, Bool.false_eq_true, if_false, drawnLines, rule_eq, line_eq,
    List.cons_append, List.flatMap_cons, List.flatMap_append, List.flatMap_map, List.flatMap_nil,
    List.append_nil, List.append_assoc]

/-! ## The grid of a collection -/

/-- The rows of the grid of a collection: for every record its cells, as they are drawn. -/
def rowsOf (requested : Option Nat) (c : Collection) : List (List (List Char)) :=
  c.entries.map fun e => e.cells.map fun text => cell (requested.map limitOf) text.toList

/-- The header of the grid of a collection: its column names. -/
def headerOf (c : Collection) : List (List Char) :=
  c.columnNames.map String.toList

theorem ofCollection_eq (requested : Option Nat) (c : Collection) :
    ofCollection requested c = draw (headerOf c) (rowsOf requested c) :=
  rfl

theorem length_rowsOf (requested : Option Nat) (c : Collection) :
    (rowsOf requested c).length = c.size := by
  rw [rowsOf, List.length_map, Collection.length_entries]

theorem unbroken_of_mem_rowsOf {requested : Option Nat} {c : Collection} {row : List (List Char)}
    (hrow : row ∈ rowsOf requested c) {text : List Char} (htext : text ∈ row) : Unbroken text := by
  obtain ⟨e, -, rfl⟩ := List.mem_map.mp hrow
  obtain ⟨t, -, rfl⟩ := List.mem_map.mp htext
  exact unbroken_cell _ _

end RecordQuery.Grid
