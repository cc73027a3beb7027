/-
# Collections as stores

A collection is read by index and written by index: `set` replaces the record
at a place or puts one at the end, `truncate` drops what lies from a place on,
`fresh` is an empty collection of the same kind.  Through `entries` these are
the operations of plain lists (`get?_eq`, `entries_truncate`, `entries_fresh`); a write is
refused, and nothing is changed, when the record is of another kind or the
place lies past the end.
-/
import RecordQuery.Record.Basic

namespace RecordQuery

namespace Collection

/-- The kind of the records that the collection stores. -/
def kind : Collection → Kind
  | .rows _ => .rows
  | .groups _ => .groups
  | .blanks _ => .blanks

/-- The record at a place. -/
def get? : Collection → Nat → Option Entry
  | .rows rs, n => rs[n]?.map .row
  | .groups gs, n => gs[n]?.map .group
  | .blanks k, n => if n < k then some .blank else none

/-- Overwrite place `n` of a list, or append when `n` is its length. -/
def place {α : Type} (xs : List α) (n : Nat) (x : α) : Except EvalError (List α) :=
  if n < xs.length then .ok (xs.set n x)
  else if n = xs.length then .ok (xs ++ [x])
  else .error (.pastEnd n xs.length)

/-- Overwrite the record at place `n`, or append when `n` is the size. -/
def set : Collection → Nat → Entry → Except EvalError Collection
  | .rows rs, n, .row r => (place rs n r).map .rows
  | .groups gs, n, .group g => (place gs n g).map .groups
  | .blanks k, n, .blank =>
      if n < k then .ok (.blanks k)
      else if n = k then .ok (.blanks (k + 1))
      else .error (.pastEnd n k)
  | c, _, _ => .error (.foreignEntry c.kind)

/-- Drop every record from place `n` on. -/
def truncate : Collection → Nat → Collection
  | .rows rs, n => .rows (rs.take n)
  | .groups gs, n => .groups (gs.take n)
  | .blanks k, n => .blanks (min n k)

/-- An empty collection of the same kind. -/
def fresh : Collection → Collection
  | .rows _ => .rows []
  | .groups _ => .groups []
  | .blanks _ => .blanks 0

/-- The column names of the first record. -/
def columnNames (c : Collection) : List String :=
  match c.get? 0 with
  | some e => e.columnNames
  | none => []

/-! ## The list of records under each operation -/

theorem length_entries (c : Collection) : c.entries.length = c.size := by
  cases c <;> simp [entries, size]

theorem get?_eq (c : Collection) (n : Nat) : c.get? n = c.entries[n]? := by
  cases c with
  | rows rs => simp [get?, entries]
  | groups gs => simp [get?, entries]
  | blanks k => by_cases h : n < k <;> simp [get?, entries, h]

theorem entries_truncate (c : Collection) (n : Nat) :
    (c.truncate n).entries = c.entries.take n := by
  cases c <;> simp [entries, truncate, List.map_take]

theorem entries_fresh (c : Collection) : c.fresh.entries = [] := by
  cases c <;> rfl

theorem kind_fresh (c : Collection) : c.fresh.kind = c.kind := by
  cases c <;> rfl

theorem kind_of_mem_entries {c : Collection} {e : Entry} (h : e ∈ c.entries) :
    e.kind = c.kind := by
  cases c with
  | rows rs =>
      obtain ⟨r, -, rfl⟩ := List.mem_map.mp h
      rfl
  | groups gs =>
      obtain ⟨g, -, rfl⟩ := List.mem_map.mp h
      rfl
  | blanks n =>
      rw [(List.mem_replicate.mp h).2]
      rfl

end Collection

end RecordQuery
