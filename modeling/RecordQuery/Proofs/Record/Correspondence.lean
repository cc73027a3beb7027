/-
# Records that correspond

Two records correspond when they are built alike, groups within groups under the same
headers and shared values, and the rows underneath them correspond one by one in a way that
is given:

    row      rows that correspond
    group    equal headers, equal shared values, and members that correspond
    blank    nothing to compare

and so do two collections of one kind whose records correspond in order.

A look-up is handed down from a group to its members, level by level and with the key
changed on the way, so what rows answer is what decides.  `AnswerAlike` says that rows which
correspond give equal answers, or fail in corresponding ways, when asked for keys that
correspond; then so do records (`Entry.Corresponds.get_alike`), by induction on the levels.
-/
import RecordQuery.Proofs.Record.Entries
import RecordQuery.Proofs.Record.Lookup

namespace RecordQuery

mutual

/-- The records are built alike, and the rows underneath correspond. -/
inductive Entry.Corresponds (R : Row → Row → Prop) : Entry → Entry → Prop
  | row {r r' : Row} : R r r' → Entry.Corresponds R (.row r) (.row r')
  | group {g g' : Group} : g.headers = g'.headers → g.key = g'.key →
      Collection.Corresponds R g.members g'.members → Entry.Corresponds R (.group g) (.group g')
  | blank : Entry.Corresponds R .blank .blank

/-- The collections are of one kind, and their records correspond in order. -/
inductive Collection.Corresponds (R : Row → Row → Prop) : Collection → Collection → Prop
  | of {c c' : Collection} : c.kind = c'.kind →
      List.Forall₂ (Entry.Corresponds R) c.entries c'.entries → Collection.Corresponds R c c'

end

variable {R : Row → Row → Prop}

/-- The induction over the levels of groups. -/
theorem Entry.Corresponds.induct {P : Entry → Entry → Prop}
    (row : ∀ r r' : Row, R r r' → P (.row r) (.row r'))
    (group : ∀ g g' : Group, g.headers = g'.headers → g.key = g'.key →
      g.members.kind = g'.members.kind →
      List.Forall₂ P g.members.entries g'.members.entries → P (.group g) (.group g'))
    (blank : P .blank .blank) {e e' : Entry} (h : e.Corresponds R e') : P e e' :=
  @Entry.Corresponds.rec R (fun e e' _ => P e e')
    (fun c c' _ => c.kind = c'.kind ∧ List.Forall₂ P c.entries c'.entries)
    (fun es es' _ => List.Forall₂ P es es')
    (fun hr => row _ _ hr)
    (fun hheaders hkey _ ih => group _ _ hheaders hkey ih.1 ih.2)
    blank
    (fun hkind _ ih => ⟨hkind, ih⟩)
    .nil
    (fun _ _ he hes => .cons he hes)
    e e' h

namespace Collection

variable {c c' : Collection}

theorem Corresponds.kind_eq (h : c.Corresponds R c') : c.kind = c'.kind := by
  obtain ⟨hkind, -⟩ := h
  exact hkind

theorem Corresponds.entries (h : c.Corresponds R c') :
    List.Forall₂ (Entry.Corresponds R) c.entries c'.entries := by
  obtain ⟨-, hentries⟩ := h
  exact hentries

theorem corresponds_rows {rs rs' : List Row} (h : List.Forall₂ R rs rs') :
    (Collection.rows rs).Corresponds R (.rows rs') := by
  refine .of rfl ?_
  rw [Collection.entries, Collection.entries]
  exact List.rel_map (fun _ _ => .row) h

theorem corresponds_groups {gs gs' : List Group}
    (h : List.Forall₂ (fun g g' => (Entry.group g).Corresponds R (.group g')) gs gs') :
    (Collection.groups gs).Corresponds R (.groups gs') := by
  refine .of rfl ?_
  rw [Collection.entries, Collection.entries, List.forall₂_map_left_iff,
    List.forall₂_map_right_iff]
  exact h

theorem corresponds_blanks (n : Nat) : (Collection.blanks n).Corresponds R (.blanks n) := by
  refine .of rfl (List.forall₂_same.mpr fun e he => ?_)
  rw [(List.mem_replicate.mp he).2]
  exact .blank

/-- Records that correspond make collections that do. -/
theorem corresponds_ofEntries {es es' : List Entry} (h : List.Forall₂ (Entry.Corresponds R) es es') :
    ∀ k : Kind, (ofEntries k es).Corresponds R (ofEntries k es')
  | .rows => by
      refine corresponds_rows ?_
      induction h with
      | nil => exact .nil
      | cons he _ ih =>
          cases he with
          | row hr => exact .cons hr ih
          | group _ _ _ => exact ih
          | blank => exact ih
  | .groups => by
      refine corresponds_groups ?_
      induction h with
      | nil => exact .nil
      | cons he _ ih =>
          cases he with
          | row _ => exact ih
          | group hheaders hkey hmembers => exact .cons (.group hheaders hkey hmembers) ih
          | blank => exact ih
  | .blanks => by
      rw [ofEntries, ofEntries, h.length_eq]
      exact corresponds_blanks es'.length

theorem size_eq_of_entries {P : Entry → Entry → Prop} (h : List.Forall₂ P c.entries c'.entries) :
    c.size = c'.size := by
  rw [← length_entries, ← length_entries, h.length_eq]

end Collection

/-- Where only equal rows correspond, only equal records do. -/
theorem Entry.Corresponds.eq {e e' : Entry} (h : e.Corresponds Eq e') : e = e' := by
  refine Entry.Corresponds.induct (P := Eq) (fun r r' hr => by rw [hr]) ?_ rfl h
  rintro ⟨headers, key, members⟩ ⟨headers', key', members'⟩ hheaders hkey hkind hmembers
  rw [List.forall₂_eq_eq_eq] at hmembers
  obtain rfl : headers = headers' := hheaders
  obtain rfl : key = key' := hkey
  obtain rfl : members = members' := Collection.ext hkind hmembers
  rfl

theorem Collection.Corresponds.eq {c c' : Collection} (h : c.Corresponds Eq c') : c = c' := by
  have hentries := h.entries.imp fun _ _ => Entry.Corresponds.eq
  rw [List.forall₂_eq_eq_eq] at hentries
  exact Collection.ext h.kind_eq hentries

/-! ## A collection beside itself -/

mutual

theorem Group.corresponds_self (hR : ∀ r, R r r) : ∀ g : Group,
    (Entry.group g).Corresponds R (.group g)
  | .mk _ _ members => .group rfl rfl (Collection.corresponds_self hR members)

theorem Collection.corresponds_self (hR : ∀ r, R r r) : ∀ c : Collection, c.Corresponds R c
  | .rows _ => Collection.corresponds_rows (List.forall₂_same.mpr fun r _ => hR r)
  | .groups _ => Collection.corresponds_groups
      (List.forall₂_same.mpr fun g _ => Group.corresponds_self hR g)
  | .blanks n => Collection.corresponds_blanks n

end

/-! ## Look-ups -/

/-- Rows and keys that correspond look up the same, give equal answers, and fail in
corresponding ways. -/
structure AnswerAlike (R : Row → Row → Prop) (K : String → String → Prop)
    (E : EvalError → EvalError → Prop) : Prop where
  lookup_eq : ∀ {key key' : String}, K key key' → Lookup.ofKey key = Lookup.ofKey key'
  column : ∀ {key key' name : String}, K key key' → Lookup.ofKey key = .sizeOf name →
    K (Key.column name) (Key.column name)
  row : ∀ {r r' : Row} {key key' : String}, R r r' → K key key' →
    Outcome.Alike E Eq (r.get key) (r'.get key')
  missing : ∀ {key key' : String}, K key key' → E (.keyNotFound key) (.keyNotFound key')
  refl : ∀ err : EvalError, E err err

namespace AnswerAlike

variable {K : String → String → Prop} {E : EvalError → EvalError → Prop}

/-- Members that answer alike are gathered alike, whatever they fail from. -/
theorem gather_alike (h : AnswerAlike R K E) {c c' : Collection} {key key' : String}
    (hkey : K key key')
    (hmembers : List.Forall₂ (fun e e' : Entry => Outcome.Alike E Eq (e.get key) (e'.get key'))
      c.entries c'.entries) : Outcome.Alike E Eq (c.gather key) (c'.gather key') := by
  have hall : Outcome.Alike E Eq (c.entries.mapM (Entry.get · key))
      (c'.entries.mapM (Entry.get · key')) := Outcome.Alike.mapM_eq hmembers fun _ _ halike => halike
  rw [Collection.gather_eq, Collection.gather_eq]
  generalize c.entries.mapM (Entry.get · key) = x at hall ⊢
  generalize c'.entries.mapM (Entry.get · key') = y at hall ⊢
  cases hall with
  | ok hvs => exact .ok (congrArg Value.list hvs)
  | error _ => exact .error (h.missing hkey)

/-- The step: a group whose members answer alike answers alike. -/
theorem group_get_alike (h : AnswerAlike R K E) {g g' : Group} (hheaders : g.headers = g'.headers)
    (hkey : g.key = g'.key)
    (hmembers : List.Forall₂ (fun e e' : Entry => ∀ key key' : String, K key key' →
      Outcome.Alike E Eq (e.get key) (e'.get key')) g.members.entries g'.members.entries)
    {key key' : String} (hkeys : K key key') :
    Outcome.Alike E Eq (g.get key) (g'.get key') := by
  rw [Group.get_eq, Group.get_eq, ← h.lookup_eq hkeys, hheaders, hkey]
  cases hlookup : Lookup.ofKey key with
  | size => exact .ok (congrArg Value.ofSize (Collection.size_eq_of_entries hmembers))
  | sizeOf name =>
      dsimp only
      cases g'.headers.cell? g'.key name with
      | some v => exact .ok rfl
      | none =>
          have hcolumn : K (Key.column name) (Key.column name) := h.column hkeys hlookup
          have hgather := h.gather_alike hcolumn (hmembers.imp fun _ _ halike => halike _ _ hcolumn)
          exact hgather.map fun _ _ hv => congrArg (fun v => Value.ofSize v.size) hv
  | field name =>
      dsimp only
      cases g'.headers.cell? g'.key name with
      | some v => exact .ok rfl
      | none => exact h.gather_alike hkeys (hmembers.imp fun _ _ halike => halike _ _ hkeys)
  | unknown => exact .error (h.missing hkeys)

/-- The run down the levels: records that correspond answer alike. -/
theorem get_alike (h : AnswerAlike R K E) {e e' : Entry} (he : e.Corresponds R e') :
    ∀ key key' : String, K key key' → Outcome.Alike E Eq (e.get key) (e'.get key') := by
  refine Entry.Corresponds.induct (P := fun e e' => ∀ key key' : String, K key key' →
    Outcome.Alike E Eq (e.get key) (e'.get key')) ?_ ?_ ?_ he
  · exact fun r r' hr _ _ hkey => h.row hr hkey
  · exact fun g g' hheaders hkey _ hmembers _ _ hkeys =>
      h.group_get_alike hheaders hkey hmembers hkeys
  · exact fun _ _ _ => .ok rfl

end AnswerAlike

end RecordQuery
