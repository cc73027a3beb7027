/-
# What a record answers to a key

A group that is asked for a field of its members answers with the list of what they
answer, each in its turn (`Collection.gather_eq`).  This is said of the records of the
members whatever their kind: rows, groups and blanks answer through `Entry.get` alike.

A look-up fails in one way only, for want of the key, and says which (`Entry.get_ok_or_reports`):

    asked        of a row      of a group
    sz.name      sz.name       c.name
    sized.name   sized.name    c.name
    other key    that key      that key

What a member reports never comes through: gathering reports the key that it passed on, at
every depth.  Only the size of a field is passed on under another key than the one asked for.
-/
import RecordQuery.Proofs.Outcome
import RecordQuery.Proofs.Record.Column

namespace RecordQuery

/-! ## The members of a group -/

theorem getEach_eq (key : String) : ∀ gs : List Group, getEach gs key = gs.mapM (Group.get · key)
  | [] => by
      rw [getEach, List.mapM_nil]
      rfl
  | g :: gs => by
      rw [getEach, List.mapM_cons, getEach_eq key gs]
      cases g.get key with
      | error err => rfl
      | ok v =>
          cases gs.mapM (Group.get · key) with
          | error err => rfl
          | ok vs => rfl

theorem mapM_get_blank (n : Nat) (key : String) :
    (List.replicate n Entry.blank).mapM (Entry.get · key) = .ok (List.replicate n .nil) := by
  have hblank : ∀ e ∈ List.replicate n Entry.blank, e.get key = .ok .nil := by
    intro e he
    rw [(List.mem_replicate.mp he).2]
    rfl
  rw [Outcome.mapM_of_ok (g := fun _ => .nil) hblank, List.map_replicate]

/-- What is gathered is what the records answer one by one. -/
theorem Collection.gather_eq (c : Collection) (key : String) :
    c.gather key =
      match c.entries.mapM (Entry.get · key) with
      | .ok vs => .ok (.list vs)
      | .error _ => .error (.keyNotFound key) := by
  cases c with
  | rows rs => rw [gather, entries, List.mapM_map]; rfl
  | groups gs => rw [gather, entries, List.mapM_map, getEach_eq]; rfl
  | blanks n => rw [gather, entries, mapM_get_blank]

/-- What a group answers, said of its headers, its shared values and its members. -/
theorem Group.get_eq (g : Group) (key : String) :
    g.get key =
      match Lookup.ofKey key with
      | .size => .ok (.ofSize g.members.size)
      | .sizeOf name =>
          match g.headers.cell? g.key name with
          | some v => .ok (.ofSize v.size)
          | none => (g.members.gather (Key.column name)).map fun v => .ofSize v.size
      | .field name =>
          match g.headers.cell? g.key name with
          | some v => .ok v
          | none => g.members.gather key
      | .unknown => .error (.keyNotFound key) := by
  obtain ⟨headers, own, members⟩ := g
  rw [Group.get]
  rfl

/-! ## Look-ups that fail -/

theorem Row.get_error {r : Row} {key : String} {err : EvalError} (h : r.get key = .error err) :
    err = .keyNotFound key := by
  unfold Row.get at h
  dsimp only at h
  split at h
  · cases h
  · rw [Outcome.map_eq_error_iff] at h
    split at h
    · cases h
    · cases h
      rfl
  · split at h
    · cases h
    · cases h
      rfl
  · cases h
    rfl

theorem Collection.gather_error {c : Collection} {key : String} {err : EvalError}
    (h : c.gather key = .error err) : err = .keyNotFound key := by
  rw [gather_eq] at h
  split at h
  · cases h
  · cases h
    rfl

/-- The key asks for the size of the field of this name. -/
def Key.IsSizeOf (key name : String) : Prop :=
  name ≠ "" ∧ ∃ scheme ∈ Key.sizeSchemes, key = scheme ++ "." ++ name

theorem Lookup.ofKey_eq_sizeOf_iff {key name : String} :
    Lookup.ofKey key = .sizeOf name ↔ Key.IsSizeOf key name := by
  constructor
  · intro h
    unfold Lookup.ofKey at h
    split at h
    · cases h
    · rename_i scheme name' hsplit
      split at h
      · rename_i hscheme
        split at h
        · cases h
        · rename_i hname
          cases h
          exact ⟨hname, scheme, hscheme, Key.eq_of_split hsplit⟩
      · split at h <;> cases h
  · rintro ⟨hname, scheme, hscheme, rfl⟩
    have hdot : ∀ s ∈ Key.sizeSchemes, '.' ∉ s.toList := by decide
    rw [Lookup.ofKey, Key.split_scheme (hdot scheme hscheme)]
    dsimp only
    rw [if_pos hscheme, if_neg hname]

/-- The key under which a group looks: a size is that of what the column key finds. -/
def Key.lookedUp (key : String) : String :=
  match Lookup.ofKey key with
  | .sizeOf name => Key.column name
  | .size | .field _ | .unknown => key

theorem Key.lookedUp_of_isSizeOf {key name : String} (h : Key.IsSizeOf key name) :
    Key.lookedUp key = Key.column name := by
  rw [Key.lookedUp, Lookup.ofKey_eq_sizeOf_iff.mpr h]

/-- A key that asks for a size is never a column key, and every other key is looked up as it is. -/
theorem Key.lookedUp_ne_iff {key : String} :
    Key.lookedUp key ≠ key ↔ ∃ name, Key.IsSizeOf key name := by
  constructor
  · intro hne
    cases hkey : Lookup.ofKey key with
    | sizeOf name => exact ⟨name, Lookup.ofKey_eq_sizeOf_iff.mp hkey⟩
    | size | field _ | unknown => exact absurd (by rw [Key.lookedUp, hkey]) hne
  · rintro ⟨name, hsize⟩ hsame
    have hasked : Lookup.ofKey key = .sizeOf name := Lookup.ofKey_eq_sizeOf_iff.mpr hsize
    rw [← hsame, Key.lookedUp_of_isSizeOf hsize, Lookup.ofKey_column] at hasked
    cases hasked

theorem Group.get_error {g : Group} {key : String} {err : EvalError}
    (h : g.get key = .error err) : err = .keyNotFound (Key.lookedUp key) := by
  rw [Group.get_eq] at h
  unfold Key.lookedUp
  cases hkey : Lookup.ofKey key with
  | size =>
      rw [hkey] at h
      cases h
  | sizeOf name =>
      rw [hkey] at h
      dsimp only at h ⊢
      split at h
      · cases h
      · exact Collection.gather_error (Outcome.map_eq_error_iff.mp h)
  | field name =>
      rw [hkey] at h
      dsimp only at h ⊢
      split at h
      · cases h
      · exact Collection.gather_error h
  | unknown =>
      rw [hkey] at h
      cases h
      rfl

/-- The key that a record reports when it has nothing under the one it is asked for. -/
def Entry.reported : Entry → String → String
  | .group _, key => Key.lookedUp key
  | .row _, key | .blank, key => key

theorem Entry.get_error_reported {e : Entry} {key : String} {err : EvalError}
    (h : e.get key = .error err) : err = .keyNotFound (e.reported key) := by
  cases e with
  | row r => exact Row.get_error h
  | group g => exact Group.get_error h
  | blank => cases h

theorem Entry.get_error {e : Entry} {key : String} {err : EvalError}
    (h : e.get key = .error err) : ∃ missing, err = .keyNotFound missing :=
  ⟨e.reported key, get_error_reported h⟩

theorem Entry.reported_ne_iff {e : Entry} {key : String} :
    e.reported key ≠ key ↔ e.kind = .groups ∧ ∃ name, Key.IsSizeOf key name := by
  cases e with
  | row r => simp [reported, kind]
  | group g => simp only [reported, kind, Key.lookedUp_ne_iff, true_and]
  | blank => simp [reported, kind]

/-- A record answers to a key, or fails for want of a key.  That is the very key it was asked
for, unless the record is a group and was asked for the size of a field: then it is the column
key of the field, whatever spelling of the scheme was used. -/
theorem Entry.get_ok_or_reports (e : Entry) (key : String) :
    (∃ v, e.get key = .ok v)
      ∨ ∃ missing, e.get key = .error (.keyNotFound missing)
        ∧ (missing ≠ key ↔ e.kind = .groups ∧ ∃ name, Key.IsSizeOf key name)
        ∧ ∀ name, e.kind = .groups → Key.IsSizeOf key name → missing = Key.column name := by
  cases h : e.get key with
  | ok v => exact Or.inl ⟨v, rfl⟩
  | error err =>
      refine Or.inr ⟨e.reported key, by rw [get_error_reported h], reported_ne_iff, ?_⟩
      intro name hkind hsize
      cases e with
      | row r => cases hkind
      | group g => exact Key.lookedUp_of_isSizeOf hsize
      | blank => cases hkind

/-- A row, and a group that has it as its only member. -/
def soleMember : Row × Group :=
  (⟨⟨["job", "pay"]⟩, [.text "dev", .text "10"]⟩,
    .mk ⟨["job"]⟩ [.text "dev"] (.rows [⟨⟨["job", "pay"]⟩, [.text "dev", .text "10"]⟩]))

/-- Asked for the size of a field that is not there, the row reports the key, and the group
reports another one. -/
theorem Entry.get_missingSize :
    (Entry.row soleMember.1).get "sz.missing" = .error (.keyNotFound "sz.missing")
      ∧ (Entry.group soleMember.2).get "sz.missing" = .error (.keyNotFound "c.missing")
      ∧ ¬ ((∃ v, (Entry.group soleMember.2).get "sz.missing" = .ok v)
        ∨ (Entry.group soleMember.2).get "sz.missing" = .error (.keyNotFound "sz.missing")) := by
  have hgroup : (Entry.group soleMember.2).get "sz.missing" = .error (.keyNotFound "c.missing") := by
    have hkey : Lookup.ofKey "sz.missing" = .sizeOf "missing" := rfl
    have hown : soleMember.2.headers.cell? soleMember.2.key "missing" = none := by decide
    have hmembers : soleMember.2.members.gather (Key.column "missing")
        = .error (.keyNotFound "c.missing") := by
      rw [Collection.gather_eq]
      rfl
    rw [Entry.get, Group.get_eq, hkey]
    simp only [hown, hmembers]
    rfl
  refine ⟨rfl, hgroup, ?_⟩
  rw [hgroup]
  rintro (⟨v, h⟩ | h)
  · cases h
  · exact absurd (EvalError.keyNotFound.inj (Except.error.inj h)) (by decide)

end RecordQuery
