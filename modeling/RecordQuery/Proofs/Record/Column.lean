/-
# Asking for a column by its name

A column name in a key, `c.` and the name, asks for the field of that name whatever
characters the name is made of: the scheme ends at the first dot, and that is the one of
`c.` (`Key.split_scheme`).  So a record that has the name answers with the value under it,
and of several columns of one name it is the first that answers (`Entry.get_column`).  The
same holds of `h.` and the other schemes of a field.
-/
import RecordQuery.Proofs.Record.Headers
import RecordQuery.Record.Basic

namespace RecordQuery

/-! ## Up to a character -/

theorem ne_of_notMem {front : List Char} {c : Char} (h : c ∉ front) :
    ∀ a ∈ front, decide (a ≠ c) = true := by
  intro a ha
  rw [decide_eq_true_eq]
  rintro rfl
  exact h ha

theorem takeWhile_ne_append {front : List Char} {c : Char} (h : c ∉ front) (back : List Char) :
    (front ++ c :: back).takeWhile (· ≠ c) = front := by
  rw [List.takeWhile_append_of_pos (ne_of_notMem h),
    List.takeWhile_cons_of_neg (by rw [decide_eq_true_eq]; exact fun hne => hne rfl),
    List.append_nil]

theorem dropWhile_ne_append {front : List Char} {c : Char} (h : c ∉ front) (back : List Char) :
    (front ++ c :: back).dropWhile (· ≠ c) = c :: back := by
  rw [List.dropWhile_append_of_pos (ne_of_notMem h),
    List.dropWhile_cons_of_neg (by rw [decide_eq_true_eq]; exact fun hne => hne rfl)]

theorem notMem_takeWhile_ne (cs : List Char) (c : Char) : c ∉ cs.takeWhile (· ≠ c) :=
  fun h => of_decide_eq_true (List.all_eq_true.mp List.all_takeWhile c h) rfl

/-- A text that holds the character is cut in front of the first one. -/
theorem eq_append_of_dropWhile_ne {cs back : List Char} {c d : Char}
    (h : cs.dropWhile (· ≠ c) = d :: back) : cs = cs.takeWhile (· ≠ c) ++ c :: back := by
  have hd : d = c := by
    have hhead := List.head?_dropWhile_not (fun a => decide (a ≠ c)) cs
    rw [h] at hhead
    exact Decidable.not_not.mp (of_decide_eq_false hhead)
  have happend := List.takeWhile_append_dropWhile (p := (· ≠ c)) (l := cs)
  rw [h, hd] at happend
  exact happend.symm

/-! ## Keys with a scheme -/

/-- The scheme ends at the first dot, and what follows may hold dots of its own. -/
theorem Key.split_scheme {scheme : String} (h : '.' ∉ scheme.toList) (name : String) :
    Key.split (scheme ++ "." ++ name) = (some scheme, name) := by
  have hkey : (scheme ++ "." ++ name).toList = scheme.toList ++ '.' :: name.toList := by
    rw [String.toList_append, String.toList_append, List.append_assoc]
    rfl
  simp only [Key.split, hkey, takeWhile_ne_append h, dropWhile_ne_append h, String.ofList_toList]

theorem Key.eq_of_split {key scheme name : String} (h : Key.split key = (some scheme, name)) :
    key = scheme ++ "." ++ name := by
  rw [Key.split] at h
  split at h
  · cases h
  · rename_i hrest
    cases h
    rw [← String.toList_inj]
    simp only [String.toList_append, String.toList_ofList, List.append_assoc]
    exact eq_append_of_dropWhile_ne hrest

theorem Key.split_column (name : String) : Key.split (Key.column name) = (some "c", name) :=
  @Key.split_scheme "c" (by decide) name

theorem Key.split_header (name : String) : Key.split ("h." ++ name) = (some "h", name) :=
  @Key.split_scheme "h" (by decide) name

theorem Lookup.ofKey_column (name : String) : Lookup.ofKey (Key.column name) = .field name := by
  rw [Lookup.ofKey, Key.split_column]
  rfl

theorem Lookup.ofKey_header (name : String) : Lookup.ofKey ("h." ++ name) = .field name := by
  rw [Lookup.ofKey, Key.split_header]
  rfl

/-- A name that is there is looked up exactly, and found at its first place. -/
theorem Headers.position_of_mem {h : Headers} {name : String} (hname : name ∈ h.names) :
    h.position name = some (h.names.idxOf name) := by
  have hsome : h.names.findIdx? (· == name) = some (h.names.idxOf name) := by
    rw [List.findIdx?_eq_some_iff_findIdx_eq]
    exact ⟨List.idxOf_lt_length_of_mem hname, rfl⟩
  rw [Headers.position_eq, hsome, Option.some_or]

theorem Headers.cell?_of_mem {h : Headers} {name : String} (hname : name ∈ h.names)
    (cells : List Value) : h.cell? cells name = cells[h.names.idxOf name]? := by
  rw [Headers.cell?, Headers.position_of_mem hname, Option.bind_some]

/-! ## The cells under a name -/

/-- The cell of a row under a name, if it has one. -/
def Row.cell? (r : Row) (name : String) : Option Value :=
  r.headers.cell? r.values name

/-- The cells of some rows under a name, in the order of the rows. -/
def cellsUnder (name : String) (rs : List Row) : List Value :=
  rs.filterMap (Row.cell? · name)

theorem Row.get_header {r : Row} {name : String} {v : Value} (h : r.cell? name = some v) :
    r.get ("h." ++ name) = .ok v := by
  rw [Row.cell?] at h
  simp only [Row.get, Lookup.ofKey_header, h]

/-- Rows that all have a cell under the name answer with these cells. -/
theorem mapM_get_header {name : String} : ∀ {rs : List Row},
    (∀ r ∈ rs, (r.cell? name).isSome = true) →
      (rs.map Entry.row).mapM (Entry.get · ("h." ++ name)) = .ok (cellsUnder name rs)
  | [], _ => rfl
  | r :: rs, h => by
      obtain ⟨hr, hrs⟩ := List.forall_mem_cons.mp h
      obtain ⟨v, hv⟩ := Option.isSome_iff_exists.mp hr
      have hget : (Entry.row r).get ("h." ++ name) = .ok v := Row.get_header hv
      have hcells : cellsUnder name (r :: rs) = v :: cellsUnder name rs :=
        List.filterMap_cons_some hv
      rw [List.map_cons, List.mapM_cons, mapM_get_header hrs, hget, hcells]
      rfl

/-! ## Records -/

/-- A record with one value for each of its columns answers for every column name, with
the value of the first column of that name. -/
theorem Entry.get_column {e : Entry} {name : String} (hname : name ∈ e.columnNames)
    (hvalues : e.values.length = e.columnNames.length) :
    ∃ v, e.values[e.columnNames.idxOf name]? = some v ∧ e.get (Key.column name) = .ok v := by
  have hplace : e.columnNames.idxOf name < e.values.length := by
    rw [hvalues]
    exact List.idxOf_lt_length_of_mem hname
  obtain ⟨v, hv⟩ : ∃ v, e.values[e.columnNames.idxOf name]? = some v :=
    ⟨_, List.getElem?_eq_getElem hplace⟩
  refine ⟨v, hv, ?_⟩
  cases e with
  | row r =>
      have hcell : r.headers.cell? r.values name = some v := by
        rw [Headers.cell?_of_mem hname]
        exact hv
      simp only [Entry.get, Row.get, Lookup.ofKey_column, hcell]
  | group g =>
      obtain ⟨headers, key, members⟩ := g
      have hmem : name ∈ headers.names := hname
      have hcell : headers.cell? key name = some v := by
        rw [Headers.cell?_of_mem hmem]
        exact hv
      simp only [Entry.get, Group.get, Lookup.ofKey_column, hcell]
  | blank => exact absurd hname List.not_mem_nil

end RecordQuery
