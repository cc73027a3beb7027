/-
# A store under any sequence of steps

A collection is written, truncated and begun afresh in place, in any order, with records of
any kind and at any place.  Through all of it the collection is a plain list of records of one
kind, the kind that it had at the beginning:

    step          on the list                             refused
    set n e       place `n` is `e`, the others as before   `e` of another kind, or a gap
    truncate n    the first `n` records                    never
    fresh         no records                               never

A write looks at the kind of the record and then at the place, and each of the two may end it.
`write` is that write in place, check after check, as a computation that keeps what it has
done until an error; where it is refused it has done nothing, and otherwise it leaves what
`Collection.set` gives (`write_on`).

The table is `StoreStep.onList`.  One step does the same to a collection and to its list
(`StoreStep.run_asList`), and so do all of them (`runSteps_eq`).
-/
import RecordQuery.Proofs.Record.Entries

namespace RecordQuery

namespace Collection

/-! ## Writes that are refused -/

theorem set_foreign {c : Collection} {e : Entry} (h : e.kind ≠ c.kind) (n : Nat) :
    c.set n e = .error (.foreignEntry c.kind) := by
  cases c with
  | rows rs =>
      cases e with
      | row r => exact absurd rfl h
      | group g => rfl
      | blank => rfl
  | groups gs =>
      cases e with
      | row r => rfl
      | group g => exact absurd rfl h
      | blank => rfl
  | blanks k =>
      cases e with
      | row r => rfl
      | group g => rfl
      | blank => exact absurd rfl h

theorem place_of_gt {α : Type} {xs : List α} {n : Nat} (h : xs.length < n) (x : α) :
    place xs n x = .error (.pastEnd n xs.length) := by
  rw [place, if_neg (Nat.lt_asymm h), if_neg (Nat.ne_of_gt h)]

theorem set_of_gt {c : Collection} {e : Entry} (hkind : e.kind = c.kind) {n : Nat}
    (hn : c.size < n) : c.set n e = .error (.pastEnd n c.size) := by
  cases c with
  | rows rs =>
      cases e with
      | row r => exact congrArg (Except.map rows) (place_of_gt hn r)
      | group g => cases hkind
      | blank => cases hkind
  | groups gs =>
      cases e with
      | row r => cases hkind
      | group g => exact congrArg (Except.map groups) (place_of_gt hn g)
      | blank => cases hkind
  | blanks k =>
      cases e with
      | row r => cases hkind
      | group g => cases hkind
      | blank =>
          have hk : k < n := hn
          rw [set, if_neg (Nat.lt_asymm hk), if_neg (Nat.ne_of_gt hk), size]

/-! ## Writing on a list -/

/-- The list with `x` at place `n`, which is a place of the list or the one behind it. -/
def written {α : Type} (xs : List α) (n : Nat) (x : α) : List α :=
  xs.take n ++ x :: xs.drop (n + 1)

theorem set_eq_written {α : Type} {xs : List α} {n : Nat} (h : n < xs.length) (x : α) :
    xs.set n x = written xs n x :=
  List.set_eq_take_append_cons_drop.trans (if_pos h)

theorem append_eq_written {α : Type} (xs : List α) (x : α) :
    xs ++ [x] = written xs xs.length x := by
  rw [written, List.take_length, List.drop_eq_nil_of_le (Nat.le_succ _)]

theorem length_written {α : Type} {xs : List α} {n : Nat} (h : n ≤ xs.length) (x : α) :
    (written xs n x).length = max xs.length (n + 1) := by
  rw [written, List.length_append, List.length_cons, List.length_take, List.length_drop]
  omega

theorem getElem?_written {α : Type} {xs : List α} {n : Nat} (h : n ≤ xs.length) (x : α) (m : Nat) :
    (written xs n x)[m]? = if m = n then some x else xs[m]? := by
  have hlength : (xs.take n).length = n := List.length_take_of_le h
  rcases Nat.lt_trichotomy m n with hlt | rfl | hgt
  · rw [if_neg (Nat.ne_of_lt hlt), written,
      List.getElem?_append_left (by rw [hlength]; exact hlt), List.getElem?_take_of_lt hlt]
  · rw [if_pos rfl, written, List.getElem?_append_right (Nat.le_of_eq hlength), hlength, Nat.sub_self,
      List.getElem?_cons_zero]
  · obtain ⟨d, rfl⟩ : ∃ d, m = n + 1 + d := Nat.exists_eq_add_of_le hgt
    rw [if_neg (Nat.ne_of_gt hgt), written, List.getElem?_append_right (by omega), hlength]
    have hplace : n + 1 + d - n = d + 1 := by omega
    rw [hplace, List.getElem?_cons_succ, List.getElem?_drop]

theorem ofKind_written {k : Kind} {es : List Entry} {e : Entry} (h : OfKind k es)
    (hkind : e.kind = k) (n : Nat) : OfKind k (written es n e) := by
  intro e' he'
  rcases List.mem_append.mp he' with he' | he'
  · exact h e' (List.mem_of_mem_take he')
  · rcases List.mem_cons.mp he' with rfl | he'
    · exact hkind
    · exact h e' (List.mem_of_mem_drop he')

/-- A write that is not refused writes on the list of the records. -/
theorem set_of_le {c : Collection} {e : Entry} (hkind : e.kind = c.kind) {n : Nat}
    (hn : n ≤ c.size) : c.set n e = .ok (ofEntries c.kind (written c.entries n e)) := by
  rcases Nat.lt_or_eq_of_le hn with hlt | rfl
  · rw [← length_entries] at hlt
    rw [set_of_lt hkind hlt, set_eq_written hlt]
  · rw [set_size hkind, append_eq_written, length_entries]

theorem set_eq_ok_iff {c d : Collection} {n : Nat} {e : Entry} :
    c.set n e = .ok d ↔
      e.kind = c.kind ∧ n ≤ c.size ∧ d = ofEntries c.kind (written c.entries n e) := by
  by_cases hkind : e.kind = c.kind
  · by_cases hn : n ≤ c.size
    · rw [set_of_le hkind hn]
      exact ⟨fun h => ⟨hkind, hn, (Except.ok.inj h).symm⟩, fun h => by rw [h.2.2]⟩
    · rw [set_of_gt hkind (Nat.lt_of_not_le hn)]
      exact ⟨nofun, fun h => absurd h.2.1 hn⟩
  · rw [set_foreign hkind]
    exact ⟨nofun, fun h => absurd h.1 hkind⟩

end Collection

/-! ## Writing in place -/

/-- A change of a collection in place.  What was changed before an error stays changed. -/
abbrev Change := ExceptT EvalError (StateM Collection) Unit

/-- The answer of a change, and the collection that it leaves. -/
def Change.on (change : Change) (c : Collection) : Except EvalError Unit × Collection :=
  StateT.run (ExceptT.run change) c

/-- Overwrite place `n`, or append when `n` is the size; the kind of the record is looked at
before the place is. -/
def write (n : Nat) (e : Entry) : Change := do
  let c ← get
  if e.kind ≠ c.kind then throw (.foreignEntry c.kind)
  else if n < c.size then MonadState.set (Collection.ofEntries c.kind (c.entries.set n e))
  else if n = c.size then MonadState.set (Collection.ofEntries c.kind (c.entries ++ [e]))
  else throw (.pastEnd n c.size)

theorem write_on (n : Nat) (e : Entry) (c : Collection) :
    (write n e).on c =
      match c.set n e with
      | .ok d => (.ok (), d)
      | .error err => (.error err, c) := by
  show Change.on (if _ then _ else _) c = _
  -- The checks in the order of the write: the kind of the record, then the place.
  by_cases hkind : e.kind = c.kind
  · rw [if_neg (not_not_intro hkind)]
    rcases Nat.lt_trichotomy n c.size with hlt | rfl | hgt
    · rw [if_pos hlt]
      rw [Collection.set_of_lt hkind (by rwa [Collection.length_entries])]
      rfl
    · rw [if_neg (Nat.lt_irrefl _), if_pos rfl, Collection.set_size hkind]
      rfl
    · rw [if_neg (Nat.lt_asymm hgt), if_neg (Nat.ne_of_gt hgt), Collection.set_of_gt hkind hgt]
      rfl
  · rw [if_pos hkind, Collection.set_foreign hkind]
    rfl

/-! ## Steps -/

/-- What is done to a store. -/
inductive StoreStep where
  | set (n : Nat) (e : Entry)
  | truncate (n : Nat)
  | fresh

namespace StoreStep

/-- The step in place; the store goes on with its fresh copy. -/
def change : StoreStep → Change
  | .set n e => write n e
  | .truncate n => modify fun c => c.truncate n
  | .fresh => modify fun c => c.fresh

/-- The answer to a step, and the store behind it. -/
def run (s : StoreStep) (c : Collection) : Except EvalError Unit × Collection :=
  s.change.on c

/-- The same step on a list that takes records of the kind `k`. -/
def onList (k : Kind) : StoreStep → List Entry → Except EvalError Unit × List Entry
  | .set n e, es =>
      if e.kind ≠ k then (.error (.foreignEntry k), es)
      else if n ≤ es.length then (.ok (), Collection.written es n e)
      else (.error (.pastEnd n es.length), es)
  | .truncate n, es => (.ok (), es.take n)
  | .fresh, _ => (.ok (), [])

theorem run_set (n : Nat) (e : Entry) (c : Collection) :
    (set n e).run c =
      match c.set n e with
      | .ok d => (.ok (), d)
      | .error err => (.error err, c) :=
  write_on n e c

/-- A step does to the records what it does to their list, and leaves the kind as it is. -/
theorem run_asList (s : StoreStep) (c : Collection) :
    (s.run c).1 = (s.onList c.kind c.entries).1
      ∧ (s.run c).2.entries = (s.onList c.kind c.entries).2
      ∧ (s.run c).2.kind = c.kind := by
  cases s with
  | set n e =>
      rw [run_set, onList]
      by_cases hkind : e.kind = c.kind
      · rw [if_neg (not_not_intro hkind)]
        by_cases hn : n ≤ c.size
        · rw [Collection.set_of_le hkind hn, Collection.length_entries, if_pos hn]
          exact ⟨rfl, Collection.entries_ofEntries
            (Collection.ofKind_written c.ofKind_entries hkind n), Collection.kind_ofEntries _ _⟩
        · rw [Collection.set_of_gt hkind (Nat.lt_of_not_le hn), Collection.length_entries,
            if_neg hn]
          exact ⟨rfl, rfl, rfl⟩
      · rw [Collection.set_foreign hkind, if_pos hkind]
        exact ⟨rfl, rfl, rfl⟩
  | truncate n =>
      exact ⟨rfl, Collection.entries_truncate c n, Collection.kind_truncate c n⟩
  | fresh => exact ⟨rfl, Collection.entries_fresh c, Collection.kind_fresh c⟩

end StoreStep

/-- The answers to some steps, taken one after the other whatever the answers are, and the
store behind the last one. -/
def runSteps : List StoreStep → Collection → List (Except EvalError Unit) × Collection
  | [], c => ([], c)
  | s :: ss, c => ((s.run c).1 :: (runSteps ss (s.run c).2).1, (runSteps ss (s.run c).2).2)

/-- The same steps on a list that takes records of the kind `k`. -/
def runOnList (k : Kind) :
    List StoreStep → List Entry → List (Except EvalError Unit) × List Entry
  | [], es => ([], es)
  | s :: ss, es =>
      ((s.onList k es).1 :: (runOnList k ss (s.onList k es).2).1,
        (runOnList k ss (s.onList k es).2).2)

/-- So do all the steps, answer by answer. -/
theorem runSteps_eq : ∀ (ss : List StoreStep) (c : Collection),
    (runSteps ss c).1 = (runOnList c.kind ss c.entries).1
      ∧ (runSteps ss c).2.entries = (runOnList c.kind ss c.entries).2
      ∧ (runSteps ss c).2.kind = c.kind
  | [], _ => ⟨rfl, rfl, rfl⟩
  | s :: ss, c => by
      obtain ⟨hanswer, hentries, hkind⟩ := s.run_asList c
      obtain ⟨hanswers, hlast, hsame⟩ := runSteps_eq ss (s.run c).2
      -- The kind is as it was, so the list goes on taking the same records.
      rw [hkind, hentries] at hanswers hlast
      refine ⟨?_, hlast, hsame.trans hkind⟩
      rw [runSteps, runOnList, hanswer, hanswers]

/-! ## What a store promises -/

/-- The collection is a list of records of the kind `k`, without gaps, and takes such records
and no others. -/
structure Collection.IsStore (k : Kind) (c : Collection) : Prop where
  homogeneous : ∀ e ∈ c.entries, e.kind = k
  gapless : ∀ n, (∃ e, c.get? n = some e) ↔ n < c.size
  set_ok_iff : ∀ n e, (∃ d, c.set n e = .ok d) ↔ e.kind = k ∧ n ≤ c.size
  set_ok : ∀ n e d, c.set n e = .ok d →
    (StoreStep.set n e).run c = (.ok (), d) ∧ d.kind = k ∧ d.size = max c.size (n + 1)
      ∧ ∀ m, d.get? m = if m = n then some e else c.get? m
  set_error : ∀ n e err, c.set n e = .error err →
    (StoreStep.set n e).run c = (.error err, c)
  truncate : ∀ n, (c.truncate n).kind = k ∧ (c.truncate n).size = min n c.size
    ∧ (c.truncate n).entries = c.entries.take n
  fresh : c.fresh.size = 0 ∧ ∀ e, (∃ d, c.fresh.set 0 e = .ok d) ↔ e.kind = k

namespace Collection

theorem exists_set_iff {c : Collection} {n : Nat} {e : Entry} :
    (∃ d, c.set n e = .ok d) ↔ e.kind = c.kind ∧ n ≤ c.size := by
  constructor
  · rintro ⟨d, hset⟩
    obtain ⟨hkind, hn, -⟩ := set_eq_ok_iff.mp hset
    exact ⟨hkind, hn⟩
  · rintro ⟨hkind, hn⟩
    exact ⟨_, set_of_le hkind hn⟩

theorem isStore (c : Collection) : c.IsStore c.kind where
  homogeneous := c.ofKind_entries
  gapless n := by
    rw [get?_eq, ← length_entries]
    exact ⟨fun ⟨_, he⟩ => (List.getElem?_eq_some_iff.mp he).1,
      fun hn => ⟨_, List.getElem?_eq_getElem hn⟩⟩
  set_ok_iff _ _ := exists_set_iff
  set_ok n e d hset := by
    obtain ⟨hkind, hn, rfl⟩ := set_eq_ok_iff.mp hset
    have hentries := entries_ofEntries (ofKind_written c.ofKind_entries hkind n)
    have hlength : n ≤ c.entries.length := by rwa [length_entries]
    refine ⟨by rw [StoreStep.run_set, hset], kind_ofEntries _ _, ?_, fun m => ?_⟩
    · rw [← length_entries, hentries, length_written hlength, length_entries]
    · rw [get?_eq, hentries, getElem?_written hlength, get?_eq]
  set_error n e err hset := by rw [StoreStep.run_set, hset]
  truncate n := by
    refine ⟨kind_truncate c n, ?_, entries_truncate c n⟩
    rw [← length_entries, entries_truncate, List.length_take, length_entries]
  fresh := by
    have hsize : c.fresh.size = 0 := by
      rw [← length_entries, entries_fresh]
      rfl
    refine ⟨hsize, fun e => exists_set_iff.trans ?_⟩
    rw [kind_fresh, and_iff_left (Nat.zero_le _)]

end Collection

/-- Whatever is written, truncated and begun afresh, in whatever order: every answer, and the
records at the end, are those of a plain list that takes records of the kind of the collection,
and the collection that is reached is a store of that kind. -/
theorem runSteps_asList (ss : List StoreStep) (c : Collection) :
    (runSteps ss c).1 = (runOnList c.kind ss c.entries).1
      ∧ (runSteps ss c).2.entries = (runOnList c.kind ss c.entries).2
      ∧ (runSteps ss c).2.IsStore c.kind := by
  obtain ⟨hanswers, hentries, hkind⟩ := runSteps_eq ss c
  exact ⟨hanswers, hentries, hkind ▸ Collection.isStore _⟩

end RecordQuery
