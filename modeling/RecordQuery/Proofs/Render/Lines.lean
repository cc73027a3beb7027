/-
# One line for every record

What a reader of a grid relies on, clause by clause:

    length_eq     a line for every record, and four more
    rules         the first, the third and the last line are one rule
    sameLength    all lines have the same number of characters
    unbroken      no line has a line end inside
    record        a record stands, with all its cells, on its line

A line feed is behind every line and nowhere else, so the lines are determined by the text,
and their number is that of its line feeds.  `unbroken` is the clause that can fail, and the
column names decide: the lines that are drawn are unbroken if the names are
(`isDrawing_drawnLines`), and no other division into lines mends a name that is broken
(`IsDrawing.unbroken_columnNames`).
-/
import RecordQuery.Proofs.Render.Grid

namespace RecordQuery.Grid

/-- The line is drawn with plus signs and dashes, and starts with a plus sign. -/
def IsRule (l : List Char) : Prop :=
  l.head? = some '+' ∧ ∀ c ∈ l, c = '+' ∨ c = '-'

/-- The lines of a grid of the collection, as a reader expects them. -/
structure IsDrawing (requested : Option Nat) (c : Collection) (lines : List (List Char)) :
    Prop where
  length_eq : lines.length = c.size + 4
  rules : ∃ r, IsRule r ∧ lines[0]? = some r ∧ lines[2]? = some r ∧ lines.getLast? = some r
  sameLength : ∃ n, ∀ l ∈ lines, l.length = n
  unbroken : ∀ l ∈ lines, Unbroken l
  record : ∀ (i : Nat) (e : Entry), c.get? i = some e →
    ∃ l, lines[i + 3]? = some l ∧
      ∀ text ∈ e.cells, cell (requested.map limitOf) text.toList <:+: l

/-! ## The lines that are drawn -/

variable {header : List (List Char)} {rows : List (List (List Char))}

theorem length_drawnLines : (drawnLines header rows).length = rows.length + 4 := by
  simp [drawnLines]

theorem isRule_ruleBody (ws : List Nat) : IsRule (ruleBody ws) :=
  ⟨rfl, fun _ hc => mem_ruleBody hc⟩

theorem mem_drawnLines {l : List Char} (h : l ∈ drawnLines header rows) :
    l = ruleBody (widths (header :: rows))
      ∨ ∃ row ∈ header :: rows, l = lineBody (widths (header :: rows)) row := by
  simp only [drawnLines, List.cons_append, List.mem_cons, List.mem_append, List.mem_map,
    List.not_mem_nil, or_false] at h
  obtain hrule | hheader | hrule | ⟨row, hrow, hl⟩ | hrule := h
  · exact Or.inl hrule
  · exact Or.inr ⟨header, List.mem_cons_self, hheader⟩
  · exact Or.inl hrule
  · exact Or.inr ⟨row, List.mem_cons_of_mem _ hrow, hl.symm⟩
  · exact Or.inl hrule

theorem length_of_mem_drawnLines {l : List Char} (h : l ∈ drawnLines header rows) :
    l.length = 1 + span (widths (header :: rows)) := by
  obtain rfl | ⟨row, hrow, rfl⟩ := mem_drawnLines h
  · exact length_ruleBody _
  · exact (fits_widths hrow).length_lineBody

/-- A character that is not drawn between the texts comes from one of them. -/
theorem exists_of_mem_drawnLines {l : List Char} (h : l ∈ drawnLines header rows) {c : Char}
    (hc : c ∈ l) : c ∈ ['+', '-', ' ', '|'] ∨ ∃ row ∈ header :: rows, ∃ text ∈ row, c ∈ text := by
  obtain rfl | ⟨row, hrow, rfl⟩ := mem_drawnLines h
  · left
    obtain rfl | rfl := mem_ruleBody hc <;> decide
  · obtain rfl | hbars := List.mem_cons.mp hc
    · left
      decide
    · obtain rfl | rfl | htext := mem_bars hbars
      · left
        decide
      · left
        decide
      · exact Or.inr ⟨row, hrow, htext⟩

theorem unbroken_drawnLines (h : ∀ row ∈ header :: rows, ∀ text ∈ row, Unbroken text) :
    ∀ l ∈ drawnLines header rows, Unbroken l := by
  intro l hl
  rw [unbroken_iff]
  intro ch hch
  obtain hdrawn | ⟨row, hrow, text, htext, hch⟩ := exists_of_mem_drawnLines hl hch
  · constructor
    · rintro rfl
      exact absurd hdrawn (by decide)
    · rintro rfl
      exact absurd hdrawn (by decide)
  · exact unbroken_iff.mp (h row hrow text htext) ch hch

theorem getElem?_drawnLines {i : Nat} {row : List (List Char)} (h : rows[i]? = some row) :
    (drawnLines header rows)[i + 3]? = some (lineBody (widths (header :: rows)) row) := by
  have hi : i < rows.length := (List.getElem?_eq_some_iff.mp h).1
  simp only [drawnLines, List.cons_append, List.getElem?_cons_succ]
  rw [List.getElem?_append_left (by rwa [List.length_map]), List.getElem?_map, h, Option.map_some]

/-! ## Line ends in the text -/

theorem count_lineEnded (ch : Char) (lines : List (List Char)) :
    (lines.flatMap (· ++ ['\n'])).count ch
      = lines.flatten.count ch + lines.length * ['\n'].count ch := by
  induction lines with
  | nil => simp
  | cons l lines ih =>
      rw [List.flatMap_cons, List.flatten_cons, List.length_cons, List.count_append,
        List.count_append, List.count_append, ih, Nat.add_mul, Nat.one_mul]
      omega

/-- As many lines, ended alike, have the same line ends inside. -/
theorem notMem_of_lineEnded_eq {lines lines' : List (List Char)} {ch : Char}
    (htext : lines.flatMap (· ++ ['\n']) = lines'.flatMap (· ++ ['\n']))
    (hlength : lines.length = lines'.length) (h : ∀ l ∈ lines', ch ∉ l) :
    ∀ l ∈ lines, ch ∉ l := by
  have hcount := congrArg (List.count ch) htext
  have hnone : lines'.flatten.count ch = 0 := by
    rw [List.count_eq_zero]
    intro hmem
    obtain ⟨l, hl, hch⟩ := List.mem_flatten.mp hmem
    exact h l hl hch
  rw [count_lineEnded, count_lineEnded, hlength, hnone] at hcount
  have hsome : lines.flatten.count ch = 0 := by omega
  intro l hl hch
  exact List.count_eq_zero.mp hsome (List.mem_flatten.mpr ⟨l, hl, hch⟩)

/-! ## The lines of a collection -/

variable {requested : Option Nat} {c : Collection}

theorem ofCollection_eq_lines (hsize : 0 < c.size)
    (hcolumn : c.columnNames ≠ [] ∨ ∃ e ∈ c.entries, e.cells ≠ []) :
    ofCollection requested c
      = (drawnLines (headerOf c) (rowsOf requested c)).flatMap (· ++ ['\n']) := by
  have hrows : rowsOf requested c ≠ [] := by
    rw [← List.length_pos_iff, length_rowsOf]
    exact hsize
  have hcolumn' : ∃ row ∈ headerOf c :: rowsOf requested c, row ≠ [] := by
    obtain hnames | ⟨e, he, hcells⟩ := hcolumn
    · exact ⟨headerOf c, List.mem_cons_self, fun h => hnames (List.map_eq_nil_iff.mp h)⟩
    · exact ⟨_, List.mem_cons_of_mem _ (List.mem_map_of_mem he),
        fun h => hcells (List.map_eq_nil_iff.mp h)⟩
  rw [ofCollection_eq, draw_eq hrows hcolumn']

/-- With unbroken column names the lines that are drawn are those that a reader expects. -/
theorem isDrawing_drawnLines
    (hnames : ∀ name ∈ c.columnNames, Unbroken name.toList) :
    IsDrawing requested c (drawnLines (headerOf c) (rowsOf requested c)) := by
  have htexts : ∀ row ∈ headerOf c :: rowsOf requested c, ∀ text ∈ row, Unbroken text := by
    intro row hrow text htext
    obtain rfl | hrow := List.mem_cons.mp hrow
    · obtain ⟨name, hname, rfl⟩ := List.mem_map.mp htext
      exact hnames name hname
    · exact unbroken_of_mem_rowsOf hrow htext
  constructor
  case length_eq => rw [length_drawnLines, length_rowsOf]
  case rules =>
    refine ⟨_, isRule_ruleBody _, rfl, rfl, ?_⟩
    rw [drawnLines, List.getLast?_append, List.getLast?_singleton, Option.some_or]
  case sameLength => exact ⟨_, fun l hl => length_of_mem_drawnLines hl⟩
  case unbroken => exact unbroken_drawnLines htexts
  case record =>
    intro i e he
    have hrow : (rowsOf requested c)[i]?
        = some (e.cells.map fun text => cell (requested.map limitOf) text.toList) := by
      rw [rowsOf, List.getElem?_map, ← Collection.get?_eq, he, Option.map_some]
    refine ⟨_, getElem?_drawnLines hrow, fun text htext => ?_⟩
    have hfits : Fits (widths (headerOf c :: rowsOf requested c)) _ :=
      fits_widths (List.mem_cons_of_mem _ (List.mem_of_getElem? hrow))
    exact hfits.stands_in_lineBody (List.mem_map_of_mem htext)

/-- A column name stands in the line of the header, so it has no line end that the lines of
the text do not have. -/
theorem IsDrawing.unbroken_columnNames {lines : List (List Char)} (h : IsDrawing requested c lines)
    (htext : (drawnLines (headerOf c) (rowsOf requested c)).flatMap (· ++ ['\n'])
      = lines.flatMap (· ++ ['\n'])) :
    ∀ name ∈ c.columnNames, Unbroken name.toList := by
  intro name hname
  have hlength : (drawnLines (headerOf c) (rowsOf requested c)).length = lines.length := by
    rw [length_drawnLines, length_rowsOf, h.length_eq]
  have hheader : lineBody (widths (headerOf c :: rowsOf requested c)) (headerOf c)
      ∈ drawnLines (headerOf c) (rowsOf requested c) := by
    simp [drawnLines]
  have hstands :
      name.toList <:+: lineBody (widths (headerOf c :: rowsOf requested c)) (headerOf c) :=
    (fits_widths List.mem_cons_self).stands_in_lineBody (List.mem_map_of_mem hname)
  have hnone : ∀ ch : Char, (∀ l ∈ lines, ch ∉ l) → ch ∉ name.toList := by
    intro ch hlines hch
    exact notMem_of_lineEnded_eq htext hlength hlines _ hheader (hstands.subset hch)
  exact ⟨hnone '\n' fun l hl => (h.unbroken l hl).1, hnone '\r' fun l hl => (h.unbroken l hl).2⟩

/-- The text of a grid consists of the lines that a reader expects if and only if no column
name has a line end in it. -/
theorem ofCollection_lines_iff (requested : Option Nat) {c : Collection} (hsize : 0 < c.size)
    (hcolumn : c.columnNames ≠ [] ∨ ∃ e ∈ c.entries, e.cells ≠ []) :
    (∃ lines, ofCollection requested c = lines.flatMap (· ++ ['\n'])
        ∧ IsDrawing requested c lines)
      ↔ ∀ name ∈ c.columnNames, Unbroken name.toList := by
  rw [ofCollection_eq_lines hsize hcolumn]
  constructor
  · rintro ⟨lines, htext, hdrawing⟩
    exact hdrawing.unbroken_columnNames htext
  · intro hnames
    exact ⟨_, rfl, isDrawing_drawnLines hnames⟩

/-- A table of one column with a single cell. -/
def oneCell (name cell : String) : Collection :=
  .rows [⟨⟨[name]⟩, [.text cell]⟩]

/-- A line end in a cell, and a cell that is cut: a line for the record all the same. -/
theorem ofCollection_lines_brokenCell :
    0 < (oneCell "name" "first\nsecond").size
      ∧ (oneCell "name" "first\nsecond").columnNames ≠ []
      ∧ String.ofList (ofCollection (some 8) (oneCell "name" "first\nsecond"))
        = "+----------+\n| name     |\n+----------+\n| first... |\n+----------+\n"
      ∧ ∃ lines, ofCollection (some 8) (oneCell "name" "first\nsecond")
          = lines.flatMap (· ++ ['\n'])
        ∧ IsDrawing (some 8) (oneCell "name" "first\nsecond") lines := by
  have hsize : 0 < (oneCell "name" "first\nsecond").size := by decide
  have hnames : (oneCell "name" "first\nsecond").columnNames ≠ [] := by decide
  refine ⟨hsize, hnames, by decide, ?_⟩
  refine (ofCollection_lines_iff (some 8) hsize (Or.inl hnames)).mpr fun name hname => ?_
  rw [List.mem_singleton.mp hname]
  exact ⟨by decide, by decide⟩

/-- A line end in a column name: the header takes two lines, and no division into lines is
the expected one. -/
theorem ofCollection_lines_brokenName :
    String.ofList (ofCollection none (oneCell "a\nb" "x"))
        = "+-----+\n| a\nb |\n+-----+\n| x   |\n+-----+\n"
      ∧ ¬ ∃ lines, ofCollection none (oneCell "a\nb" "x") = lines.flatMap (· ++ ['\n'])
        ∧ IsDrawing none (oneCell "a\nb" "x") lines := by
  refine ⟨by decide, ?_⟩
  rintro ⟨lines, htext, hdrawing⟩
  rw [ofCollection_eq_lines (by decide) (Or.inl (by decide))] at htext
  exact (hdrawing.unbroken_columnNames htext "a\nb" List.mem_cons_self).1 (by decide)

end RecordQuery.Grid
