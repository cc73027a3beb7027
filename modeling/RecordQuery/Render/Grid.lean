/-
# Grids

A grid is a table drawn with characters: a rule, the column names, a rule, one
line for every record, and a rule.  A column is as wide as its widest text.  A
cell takes one line, and one that is wider than the limit ends in three dots;
column names are drawn as they are.
-/
import RecordQuery.Record.Collection

namespace RecordQuery.Grid

/-- The limit that a requested width sets; there is room for one character and
the dots at least. -/
def limitOf (requested : Nat) : Nat :=
  max requested 4

/-- The text of a cell: line ends become blanks, and what exceeds the limit is cut
and ends in three dots. -/
def cell (limit : Option Nat) (text : List Char) : List Char :=
  let text := text.map fun c => if c = '\n' ∨ c = '\r' then ' ' else c
  match limit with
  | some limit =>
      if limit < text.length then text.take (limit - 3) ++ ['.', '.', '.'] else text
  | none => text

/-- The larger of two widths in every column; the longer list has more columns. -/
def widen : List Nat → List Nat → List Nat
  | [], ws => ws
  | vs, [] => vs
  | v :: vs, w :: ws => max v w :: widen vs ws

/-- The width of every column of some rows. -/
def widths (rows : List (List (List Char))) : List Nat :=
  rows.foldl (fun ws row => widen ws (row.map List.length)) []

/-- The line between two parts of a grid. -/
def rule (widths : List Nat) : List Char :=
  '+' :: widths.flatMap (fun w => List.replicate (w + 2) '-' ++ ['+']) ++ ['\n']

/-- The cells of a row between bars; a column that the row does not reach is
blank. -/
def bars : List Nat → List (List Char) → List Char
  | [], _ => []
  | w :: ws, row =>
      let text := row.headD []
      ' ' :: text ++ List.replicate (w - text.length + 1) ' ' ++ '|' :: bars ws row.tail

/-- The line of a row. -/
def line (widths : List Nat) (row : List (List Char)) : List Char :=
  '|' :: bars widths row ++ ['\n']

/-- The grid of a header and rows; without any column there is none. -/
def draw (header : List (List Char)) (rows : List (List (List Char))) : List Char :=
  let ws := widths (header :: rows)
  if ws.isEmpty then []
  else
    rule ws ++ line ws header ++ rule ws
      ++ rows.flatMap (line ws)
      ++ (if rows.isEmpty then [] else rule ws)

/-- The grid of a collection, with cells up to a requested width. -/
def ofCollection (requested : Option Nat) (c : Collection) : List Char :=
  draw (c.columnNames.map String.toList)
    (c.entries.map fun e =>
      e.cells.map fun text => cell (requested.map limitOf) text.toList)

end RecordQuery.Grid
