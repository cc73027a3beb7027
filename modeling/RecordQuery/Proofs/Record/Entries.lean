/-
# A collection is a list of records of one kind

`Collection.entries` loses nothing but the kind: a collection is its kind together
with its records (`Collection.ext`), and `ofEntries` puts the two together again.
Every operation is said in these terms, so that nothing has to look at the three
kinds after this module:

    set n e        the list with place `n` replaced, or with one more at the end
    truncate n     the first `n` records
    fresh          no records

each on a collection of the same kind, for a record of that kind.
-/
import RecordQuery.Record.Collection

namespace RecordQuery

namespace Collection

/-! ## Kind and records together -/

/-- The records are all stored in collections of the kind. -/
def OfKind (k : Kind) (es : List Entry) : Prop :=
  ∀ e ∈ es, e.kind = k

theorem ofKind_entries (c : Collection) : OfKind c.kind c.entries :=
  fun _ h => kind_of_mem_entries h

theorem OfKind.sublist {k : Kind} {es es' : List Entry} (h : OfKind k es)
    (hsub : es'.Sublist es) : OfKind k es' :=
  fun e he => h e (hsub.subset he)

/-- A record as a table row. -/
def row? : Entry → Option Row
  | .row r => some r
  | .group _ | .blank => none

/-- A record as a group. -/
def group? : Entry → Option Group
  | .group g => some g
  | .row _ | .blank => none

/-- The collection of a kind that holds the given records of that kind. -/
def ofEntries : Kind → List Entry → Collection
  | .rows, es => .rows (es.filterMap row?)
  | .groups, es => .groups (es.filterMap group?)
  | .blanks, es => .blanks es.length

theorem kind_ofEntries (k : Kind) (es : List Entry) : (ofEntries k es).kind = k := by
  cases k with
  | rows => rfl
  | groups => rfl
  | blanks => rfl

theorem entries_ofEntries {k : Kind} {es : List Entry} (h : OfKind k es) :
    (ofEntries k es).entries = es := by
  induction es with
  | nil => cases k <;> rfl
  | cons e es ih =>
      have hhead : e.kind = k := h e List.mem_cons_self
      have htail := ih fun e' he' => h e' (List.mem_cons_of_mem _ he')
      subst hhead
      cases e with
      | row r => exact congrArg (Entry.row r :: ·) htail
      | group g => exact congrArg (Entry.group g :: ·) htail
      | blank => exact congrArg (Entry.blank :: ·) htail

/-- The kind and the records are all there is to a collection. -/
theorem ext {c c' : Collection} (hkind : c.kind = c'.kind) (hentries : c.entries = c'.entries) :
    c = c' := by
  cases c with
  | rows rs =>
      cases c' with
      | rows rs' =>
          have hrs : rs = rs' := (List.map_inj_right fun _ _ => Entry.row.inj).mp hentries
          rw [hrs]
      | groups gs' => cases hkind
      | blanks n' => cases hkind
  | groups gs =>
      cases c' with
      | rows rs' => cases hkind
      | groups gs' =>
          have hgs : gs = gs' := (List.map_inj_right fun _ _ => Entry.group.inj).mp hentries
          rw [hgs]
      | blanks n' => cases hkind
  | blanks n =>
      cases c' with
      | rows rs' => cases hkind
      | groups gs' => cases hkind
      | blanks n' =>
          have hlength : n = n' := by
            have hboth := congrArg List.length hentries
            rwa [length_entries, length_entries] at hboth
          rw [hlength]

theorem ofEntries_entries (c : Collection) : ofEntries c.kind c.entries = c :=
  ext (kind_ofEntries _ _) (entries_ofEntries c.ofKind_entries)

theorem eq_ofEntries {c : Collection} {k : Kind} {es : List Entry} (hkind : c.kind = k)
    (hentries : c.entries = es) : c = ofEntries k es := by
  rw [← hkind, ← hentries, ofEntries_entries]

/-! ## The operations -/

theorem kind_truncate (c : Collection) (n : Nat) : (c.truncate n).kind = c.kind := by
  cases c with
  | rows rs => rfl
  | groups gs => rfl
  | blanks k => rfl

theorem truncate_eq_ofEntries (c : Collection) (n : Nat) :
    c.truncate n = ofEntries c.kind (c.entries.take n) :=
  eq_ofEntries (kind_truncate c n) (entries_truncate c n)

theorem fresh_eq_ofEntries (c : Collection) : c.fresh = ofEntries c.kind [] :=
  eq_ofEntries (kind_fresh c) (entries_fresh c)

theorem place_of_lt {α : Type} {xs : List α} {n : Nat} (h : n < xs.length) (x : α) :
    place xs n x = .ok (xs.set n x) :=
  if_pos h

theorem place_length {α : Type} (xs : List α) (x : α) :
    place xs xs.length x = .ok (xs ++ [x]) := by
  rw [place, if_neg (Nat.lt_irrefl _), if_pos rfl]

/-- A place that is taken gets the record in place of its own. -/
theorem set_of_lt {c : Collection} {e : Entry} (hkind : e.kind = c.kind) {n : Nat}
    (hn : n < c.entries.length) : c.set n e = .ok (ofEntries c.kind (c.entries.set n e)) := by
  rw [length_entries] at hn
  suffices h : ∃ c', c.set n e = .ok c' ∧ c'.kind = c.kind
      ∧ c'.entries = c.entries.set n e by
    obtain ⟨c', hset, hkind', hentries⟩ := h
    rw [hset, eq_ofEntries hkind' hentries]
  cases c with
  | rows rs =>
      cases e with
      | row r => exact ⟨_, congrArg (Except.map rows) (place_of_lt hn r), rfl, List.map_set⟩
      | group g => cases hkind
      | blank => cases hkind
  | groups gs =>
      cases e with
      | row r => cases hkind
      | group g => exact ⟨_, congrArg (Except.map groups) (place_of_lt hn g), rfl, List.map_set⟩
      | blank => cases hkind
  | blanks k =>
      cases e with
      | row r => cases hkind
      | group g => cases hkind
      | blank => exact ⟨.blanks k, if_pos hn, rfl, List.set_replicate_self.symm⟩

theorem ofKind_set {c : Collection} {e : Entry} (hkind : e.kind = c.kind) (n : Nat) :
    OfKind c.kind (c.entries.set n e) := by
  intro e' he'
  rcases List.mem_or_eq_of_mem_set he' with he' | rfl
  · exact kind_of_mem_entries he'
  · exact hkind

/-- The place behind the last record takes one more. -/
theorem set_size {c : Collection} {e : Entry} (hkind : e.kind = c.kind) :
    c.set c.size e = .ok (ofEntries c.kind (c.entries ++ [e])) := by
  suffices h : ∃ c', c.set c.size e = .ok c' ∧ c'.kind = c.kind
      ∧ c'.entries = c.entries ++ [e] by
    obtain ⟨c', hset, hkind', hentries⟩ := h
    rw [hset, eq_ofEntries hkind' hentries]
  cases c with
  | rows rs =>
      cases e with
      | row r => exact ⟨_, congrArg (Except.map rows) (place_length rs r), rfl, List.map_append⟩
      | group g => cases hkind
      | blank => cases hkind
  | groups gs =>
      cases e with
      | row r => cases hkind
      | group g =>
          exact ⟨_, congrArg (Except.map groups) (place_length gs g), rfl, List.map_append⟩
      | blank => cases hkind
  | blanks k =>
      cases e with
      | row r => cases hkind
      | group g => cases hkind
      | blank =>
          refine ⟨.blanks (k + 1), ?_, rfl, List.replicate_succ'⟩
          rw [size, set, if_neg (Nat.lt_irrefl k), if_pos rfl]

end Collection

end RecordQuery
