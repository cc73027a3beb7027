/-
# Rectangular collections

A collection is rectangular when its records line up under one list of column names:

    row      a cell for every name
    group    a shared value for every name, and members, at least one, that are
             rectangular in their turn, under names of their own
    blank    no names, and nothing under them

`Entry.Rectangular` is the condition on a record under given names, and
`Collection.Rectangular` asks it of every record under the same ones.  Neither looks at
the order of the records or at how many there are, so any choice among the records of
a rectangular collection is rectangular (`Collection.Rectangular.of_subset`), and in a
rectangular collection every record answers for every column name (`get_column`).
-/
import RecordQuery.Proofs.Record.Column
import RecordQuery.Proofs.Record.Entries

namespace RecordQuery

mutual

/-- The record has the column names, and just as many values. -/
inductive Entry.Rectangular : List String → Entry → Prop
  | row {r : Row} :
      r.values.length = r.headers.names.length → Entry.Rectangular r.headers.names (.row r)
  | group {g : Group} :
      g.key.length = g.headers.names.length → g.members.entries ≠ [] →
      Collection.Rectangular g.members → Entry.Rectangular g.headers.names (.group g)
  | blank : Entry.Rectangular [] .blank

/-- The records have one list of column names, and each just as many values. -/
inductive Collection.Rectangular : Collection → Prop
  | under {c : Collection} (names : List String) :
      (∀ e ∈ c.entries, Entry.Rectangular names e) → Collection.Rectangular c

end

namespace Entry.Rectangular

variable {names : List String} {e : Entry}

theorem columnNames_eq (h : e.Rectangular names) : e.columnNames = names := by
  cases h with
  | row => rfl
  | group => rfl
  | blank => rfl

theorem length_values (h : e.Rectangular names) : e.values.length = names.length := by
  cases h with
  | row hvalues => exact hvalues
  | group hkey => exact hkey
  | blank => rfl

end Entry.Rectangular

namespace Collection

variable {c c' : Collection}

theorem Rectangular.of_subset (h : c.Rectangular) (hsub : c'.entries ⊆ c.entries) :
    c'.Rectangular := by
  obtain ⟨names, hnames⟩ := h
  exact .under names fun e he => hnames e (hsub he)

/-- The same of records that are put together again. -/
theorem Rectangular.ofEntries {es : List Entry} (h : c.Rectangular) (hsub : es ⊆ c.entries) :
    (ofEntries c.kind es).Rectangular := by
  refine h.of_subset ?_
  rw [entries_ofEntries fun e he => kind_of_mem_entries (hsub he)]
  exact hsub

/-- The column names of a rectangular collection are those of each of its records. -/
theorem Rectangular.columnNames_eq (h : c.Rectangular) {e : Entry} (he : e ∈ c.entries) :
    e.columnNames = c.columnNames := by
  obtain ⟨names, hnames⟩ := h
  rw [columnNames, get?_eq]
  cases hes : c.entries with
  | nil =>
      rw [hes] at he
      exact absurd he List.not_mem_nil
  | cons first rest =>
      have hfirst : first ∈ c.entries := by
        rw [hes]
        exact List.mem_cons_self
      exact (hnames e he).columnNames_eq.trans (hnames first hfirst).columnNames_eq.symm

theorem Rectangular.get_column (h : c.Rectangular) {e : Entry} (he : e ∈ c.entries)
    {name : String} (hname : name ∈ e.columnNames) : ∃ v, e.get (Key.column name) = .ok v := by
  obtain ⟨names, hnames⟩ := h
  have hlength : e.values.length = e.columnNames.length := by
    rw [(hnames e he).length_values, (hnames e he).columnNames_eq]
  obtain ⟨v, -, hget⟩ := Entry.get_column hname hlength
  exact ⟨v, hget⟩

end Collection

end RecordQuery
