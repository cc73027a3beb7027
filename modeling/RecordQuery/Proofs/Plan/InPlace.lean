/-
# A filter in place decides on what was there

The walk of a filter reads and overwrites one collection.  A `Walk` is where it stands:

    kept        records kept so far, at the front of the store
    dropped     records dropped so far; place `kept + dropped` is looked at next
    store       the collection as it is by now

`Walk.Reached` are the walks that a filter passes through, one clause for each thing
that a step can do.  A step writes behind the place that it looks at, if it writes at
all, so a store agrees with the collection from the next place on (`Walk.Reached.ahead`):
whatever is asked about a record is asked about the record that was there at the
beginning.  `compactFrom`, started from any of these walks, ends where the whole filter
ends (`Walk.Reached.finish_eq`), so it is these walks that it passes through; and it comes
to every place in front of which all records have an answer (`Walk.exists_reached`).

What a filter gives is `Collection.keepEach` on the list of the records, and that stops at
the first record without an answer.
-/
import RecordQuery.Proofs.Plan.Arrange

namespace RecordQuery

namespace Collection

/-! ## The walk -/

/-- Where a filter in place stands. -/
structure Walk where
  kept : Nat
  dropped : Nat
  store : Collection

namespace Walk

variable {keep : Entry → Except EvalError Bool} {c : Collection} {w : Walk}

/-- The place that is looked at next. -/
def next (w : Walk) : Nat :=
  w.kept + w.dropped

/-- After a record that is kept it is the place behind. -/
theorem next_keep (w : Walk) (store : Collection) :
    (Walk.mk (w.kept + 1) w.dropped store).next = w.next + 1 :=
  Nat.add_right_comm _ _ _

theorem kept_lt_next (h : w.dropped ≠ 0) : w.kept < w.next :=
  Nat.lt_add_of_pos_right (Nat.pos_of_ne_zero h)

/-- The walks that a filter of a collection passes through.  A record that is kept stays
where it is as long as nothing has been dropped. -/
inductive Reached (keep : Entry → Except EvalError Bool) (c : Collection) : Walk → Prop
  | start : Reached keep c ⟨0, 0, c⟩
  | drop {w : Walk} {e : Entry} : Reached keep c w → w.store.get? w.next = some e →
      keep e = .ok false → Reached keep c ⟨w.kept, w.dropped + 1, w.store⟩
  | stay {w : Walk} {e : Entry} : Reached keep c w → w.store.get? w.next = some e →
      keep e = .ok true → w.dropped = 0 → Reached keep c ⟨w.kept + 1, w.dropped, w.store⟩
  | move {w : Walk} {e : Entry} {after : Collection} : Reached keep c w →
      w.store.get? w.next = some e → keep e = .ok true → w.dropped ≠ 0 →
        w.store.set w.kept e = .ok after → Reached keep c ⟨w.kept + 1, w.dropped, after⟩

/-- What becomes of a walk through a collection. -/
def finish (keep : Entry → Except EvalError Bool) (c : Collection) (w : Walk) :
    Except EvalError Collection :=
  compactFrom keep (c.size - w.next) w.kept w.dropped w.store

/-! ### The places ahead are as they were -/

/-- The store has the kind and the size of the collection, and its records from place `n` on. -/
structure AgreesFrom (c : Collection) (n : Nat) (store : Collection) : Prop where
  kind : store.kind = c.kind
  length : store.entries.length = c.entries.length
  drop : store.entries.drop n = c.entries.drop n

theorem AgreesFrom.succ {n : Nat} {store : Collection} (h : AgreesFrom c n store) :
    AgreesFrom c (n + 1) store where
  kind := h.kind
  length := h.length
  drop := by rw [← List.drop_drop, h.drop, List.drop_drop]

theorem AgreesFrom.get?_eq {n : Nat} {store : Collection} (h : AgreesFrom c n store) :
    store.get? n = c.get? n := by
  have hhead := congrArg (fun es => es[0]?) h.drop
  simp only [List.getElem?_drop, Nat.add_zero] at hhead
  rw [Collection.get?_eq, Collection.get?_eq, hhead]

theorem lt_of_get? {n : Nat} {store : Collection} {e : Entry} (h : store.get? n = some e) :
    n < store.entries.length := by
  rw [get?_eq] at h
  exact (List.getElem?_eq_some_iff.mp h).1

/-- A record from further on may be written over a place behind. -/
theorem AgreesFrom.exists_set {n k : Nat} {store : Collection} {e : Entry}
    (h : AgreesFrom c n store) (hk : k < n) (he : store.get? n = some e) :
    ∃ after, store.set k e = .ok after ∧ AgreesFrom c n after := by
  have hlt : k < store.entries.length := Nat.lt_trans hk (lt_of_get? he)
  have hkind : e.kind = store.kind := by
    rw [Collection.get?_eq] at he
    exact kind_of_mem_entries (List.mem_of_getElem? he)
  refine ⟨_, set_of_lt hkind hlt, ?_⟩
  have hentries := entries_ofEntries (ofKind_set hkind k)
  constructor
  · rw [kind_ofEntries, h.kind]
  · rw [hentries, List.length_set, h.length]
  · rw [hentries, List.drop_set_of_lt hk, h.drop]

/-- The invariant of the walk, one case for each step. -/
theorem Reached.ahead (h : Reached keep c w) : AgreesFrom c w.next w.store := by
  induction h with
  | start => exact ⟨rfl, rfl, rfl⟩
  | drop _ _ _ ih => exact ih.succ
  | stay _ _ _ _ ih =>
      rw [next_keep]
      exact ih.succ
  | move _ he _ hdropped hset ih =>
      obtain ⟨after', hset', hagrees⟩ := ih.exists_set (kept_lt_next hdropped) he
      rw [hset] at hset'
      cases hset'
      rw [next_keep]
      exact hagrees.succ

/-- What is looked at next is the record that was there at the beginning. -/
theorem Reached.get?_next (h : Reached keep c w) : w.store.get? w.next = c.get? w.next :=
  h.ahead.get?_eq

/-! ### From each walk on to the end -/

/-- As long as there is a record to look at, there is a step left. -/
theorem finish_eq_of_get? {e : Entry} (h : AgreesFrom c w.next w.store)
    (he : w.store.get? w.next = some e) :
    w.finish keep c = compactFrom keep (c.size - (w.next + 1) + 1) w.kept w.dropped w.store := by
  have hlt := lt_of_get? he
  rw [h.length, length_entries] at hlt
  have hleft : c.size - w.next = c.size - (w.next + 1) + 1 := by omega
  rw [finish, hleft]

/-- Each step leaves what becomes of the walk as it is. -/
theorem Reached.finish_eq (h : Reached keep c w) : w.finish keep c = c.compact keep := by
  induction h with
  | start => rfl
  | drop hw he hkeep ih =>
      rw [finish_eq_of_get? hw.ahead he, compactFrom] at ih
      unfold Walk.next at he
      simp only [he, hkeep] at ih
      exact ih
  | stay hw he hkeep hdropped ih =>
      rw [finish_eq_of_get? hw.ahead he, compactFrom] at ih
      unfold Walk.next at he
      simp only [he, hkeep, if_pos hdropped] at ih
      rw [finish, next_keep]
      exact ih
  | move hw he hkeep hdropped hset ih =>
      rw [finish_eq_of_get? hw.ahead he, compactFrom] at ih
      unfold Walk.next at he
      simp only [he, hkeep, if_neg hdropped, hset] at ih
      rw [finish, next_keep]
      exact ih

/-- The walk comes to every place in front of which all records have an answer. -/
theorem exists_reached : ∀ {n : Nat}, n ≤ c.size →
    (∀ e ∈ c.entries.take n, ∃ b, keep e = .ok b) → ∃ w, Reached keep c w ∧ w.next = n := by
  intro n
  induction n with
  | zero =>
      intro _ _
      exact ⟨_, .start, rfl⟩
  | succ n ih =>
      intro hn hanswered
      have hlt : n < c.entries.length := by
        rw [length_entries]
        exact hn
      rw [← List.take_append_getElem hlt] at hanswered
      obtain ⟨w, hw, rfl⟩ := ih (Nat.le_of_succ_le hn) fun e he =>
        hanswered e (List.mem_append_left _ he)
      have he : w.store.get? w.next = some c.entries[w.next] := by
        rw [hw.get?_next, get?_eq, List.getElem?_eq_getElem hlt]
      obtain ⟨b, hkeep⟩ := hanswered c.entries[w.next]
        (List.mem_append_right _ List.mem_cons_self)
      cases b with
      | false => exact ⟨_, hw.drop he hkeep, rfl⟩
      | true =>
          by_cases hdropped : w.dropped = 0
          · exact ⟨_, hw.stay he hkeep hdropped, next_keep w _⟩
          · obtain ⟨after, hset, -⟩ := hw.ahead.exists_set (kept_lt_next hdropped) he
            exact ⟨_, hw.move he hkeep hdropped hset, next_keep w _⟩

end Walk

/-! ## The first record without an answer -/

/-- The records in front of it do not matter, kept or dropped. -/
theorem keepEach_append_error {keep : Entry → Except EvalError Bool} {e : Entry}
    {err : EvalError} {front : List Entry} (rest : List Entry)
    (hfront : ∀ e' ∈ front, ∃ b, keep e' = .ok b) (he : keep e = .error err) :
    keepEach keep (front ++ e :: rest) = .error err := by
  induction front with
  | nil =>
      rw [List.nil_append, keepEach, he]
  | cons e' front ih =>
      obtain ⟨b, hb⟩ := hfront e' List.mem_cons_self
      have htail := ih fun e'' he'' => hfront e'' (List.mem_cons_of_mem e' he'')
      rw [List.cons_append, keepEach, hb, htail]
      cases b <;> rfl

end Collection

open Collection

/-- A filter of a collection is a filter of the list of its records.  Where the condition has
an answer for every record, the result holds those for which it is that the condition holds,
in their order; otherwise it is the error of the first record without an answer.  On the way
the filter comes to every place in front of which all records have an answer, goes on from
there to its end, and looks at the record that was at that place from the beginning. -/
theorem run_filter_in_place (fs : Registry) (cond : Condition) (c : Collection) :
    ((∀ e ∈ c.entries, ∃ b, cond.eval fs e = .ok b) →
        ∃ c', (Plan.filter cond).run fs c = .ok c' ∧ c'.kind = c.kind
          ∧ c'.entries = c.entries.filter (cond.holds fs))
      ∧ (∀ (front rest : List Entry) (e : Entry) (err : EvalError),
          c.entries = front ++ e :: rest → (∀ e' ∈ front, ∃ b, cond.eval fs e' = .ok b) →
            cond.eval fs e = .error err → (Plan.filter cond).run fs c = .error err)
      ∧ (∀ n, n ≤ c.size → (∀ e ∈ c.entries.take n, ∃ b, cond.eval fs e = .ok b) →
          ∃ w, Walk.Reached (cond.eval fs) c w ∧ w.next = n)
      ∧ ∀ w, Walk.Reached (cond.eval fs) c w →
          w.finish (cond.eval fs) c = (Plan.filter cond).run fs c
            ∧ w.store.get? w.next = c.get? w.next := by
  refine ⟨?_, ?_, ?_, ?_⟩
  · intro hanswered
    refine ⟨ofEntries c.kind (c.entries.filter (cond.holds fs)), ?_, kind_ofEntries _ _, ?_⟩
    · exact compact_of_ok fun e he => Condition.eval_of_answered (hanswered e he)
    · exact entries_ofEntries (c.ofKind_entries.sublist List.filter_sublist)
  · intro front rest e err hentries hfront he
    rw [Plan.run, compact_eq, hentries, keepEach_append_error rest hfront he]
    rfl
  · intro n hn hanswered
    exact Walk.exists_reached hn hanswered
  · intro w hw
    exact ⟨hw.finish_eq, hw.get?_next⟩

/-- Two rows, of which the second has no `n`. -/
def twoHeaders : Collection :=
  .rows [⟨⟨["n"]⟩, [.text "1"]⟩, ⟨⟨["m"]⟩, [.text "1"]⟩]

/-- The three rows after the first has been dropped and the second moved to its place. -/
def secondMoved : Walk :=
  ⟨1, 1, .rows [⟨⟨["n", "m"]⟩, [.text "1", .text "y"]⟩, ⟨⟨["n", "m"]⟩, [.text "1", .text "y"]⟩,
    ⟨⟨["n", "m"]⟩, [.text "1", .text "x"]⟩]⟩

/-- A filter that moves two of three rows, looked at between the moves, and one that stops
at the second of two rows. -/
theorem run_filter_in_place_threeRows :
    (∃ c', (Plan.filter isOne).run .empty threeRows = .ok c' ∧ c'.kind = .rows
        ∧ c'.entries = threeRows.entries.filter (isOne.holds .empty))
      ∧ (Plan.filter isOne).run .empty twoHeaders = .error (.keyNotFound "n")
      ∧ (∃ w, Walk.Reached (isOne.eval .empty) threeRows w ∧ w.next = 2)
      ∧ secondMoved.finish (isOne.eval .empty) threeRows = (Plan.filter isOne).run .empty threeRows
      ∧ secondMoved.store.get? 0 = threeRows.get? 1
      ∧ secondMoved.store.get? 2 = threeRows.get? 2 := by
  have hanswered : ∀ e ∈ threeRows.entries, ∃ b, isOne.eval .empty e = .ok b := by
    intro e he
    rcases List.mem_cons.mp he with rfl | he
    · exact ⟨_, rfl⟩
    rcases List.mem_cons.mp he with rfl | he
    · exact ⟨_, rfl⟩
    rcases List.mem_cons.mp he with rfl | he
    · exact ⟨_, rfl⟩
    · exact absurd he List.not_mem_nil
  have hmoved : Walk.Reached (isOne.eval .empty) threeRows secondMoved :=
    (Walk.Reached.start.drop rfl rfl).move rfl rfl Nat.one_ne_zero rfl
  obtain ⟨hall, -, hreached, hwalk⟩ := run_filter_in_place .empty isOne threeRows
  obtain ⟨-, hfirst, -, -⟩ := run_filter_in_place .empty isOne twoHeaders
  refine ⟨hall hanswered, ?_, ?_, ?_⟩
  · refine hfirst [.row ⟨⟨["n"]⟩, [.text "1"]⟩] [] (.row ⟨⟨["m"]⟩, [.text "1"]⟩) _ rfl ?_ rfl
    intro e he
    rw [List.mem_singleton.mp he]
    exact ⟨_, rfl⟩
  · exact hreached 2 (by decide) fun e he => hanswered e (List.mem_of_mem_take he)
  · exact ⟨(hwalk secondMoved hmoved).1, rfl, (hwalk secondMoved hmoved).2⟩

end RecordQuery
