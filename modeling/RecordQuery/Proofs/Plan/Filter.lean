/-
# Filtering in place is filtering a list

`Collection.compact` walks over the records once with two counters, and moves what
it keeps over what it has dropped.  Between two steps the collection is cut into

    front    the records kept so far, where they will stay
    gap      as many places as records were dropped; what is in them is of no account
    rest     the records not looked at yet, none of them written over

`compactFrom_eq` is that invariant, by induction on `rest`.  It says the same of an
evaluation that fails: `keepEach` asks each record in turn and stops at the first
that gives no answer.
-/
import RecordQuery.Proofs.Outcome
import RecordQuery.Proofs.Record.Entries
import RecordQuery.Query.Execute

namespace RecordQuery

namespace Collection

/-- The records that are kept, each asked once and in order. -/
def keepEach (keep : Entry → Except EvalError Bool) : List Entry → Except EvalError (List Entry)
  | [] => .ok []
  | e :: es =>
      match keep e with
      | .error err => .error err
      | .ok true => (keepEach keep es).map (e :: ·)
      | .ok false => keepEach keep es

/-- Where every record gives an answer, this is the filter of lists. -/
theorem keepEach_of_ok {keep : Entry → Except EvalError Bool} {p : Entry → Bool} :
    ∀ {es : List Entry}, (∀ e ∈ es, keep e = .ok (p e)) → keepEach keep es = .ok (es.filter p)
  | [], _ => rfl
  | e :: es, h => by
      have hhead : keep e = .ok (p e) := h e List.mem_cons_self
      have htail := keepEach_of_ok fun e' he' => h e' (List.mem_cons_of_mem e he')
      rw [keepEach, hhead]
      cases hp : p e with
      | true =>
          rw [List.filter_cons_of_pos hp]
          show (keepEach keep es).map _ = _
          rw [htail]
          rfl
      | false =>
          rw [List.filter_cons_of_neg (by rw [hp]; exact Bool.false_ne_true)]
          exact htail

/-- What is kept are records of the list, in their order. -/
theorem keepEach_sublist {keep : Entry → Except EvalError Bool} :
    ∀ {es kept : List Entry}, keepEach keep es = .ok kept → kept.Sublist es
  | [], _, h => by
      cases h
      exact .slnil
  | e :: es, kept, h => by
      rw [keepEach] at h
      split at h
      · cases h
      · obtain ⟨kept', hkept', rfl⟩ := Outcome.map_eq_ok_iff.mp h
        exact (keepEach_sublist hkept').cons_cons e
      · exact (keepEach_sublist h).cons e

/-- Setting the place behind the front leaves the front one record longer. -/
theorem set_behind_front {c : Collection} {e g : Entry} {front gap rest : List Entry}
    (hkind : e.kind = c.kind) (hc : c.entries = front ++ g :: gap ++ e :: rest) :
    ∃ c', c.set front.length e = .ok c' ∧ c'.kind = c.kind
      ∧ c'.entries = (front ++ [e]) ++ (gap ++ [e]) ++ rest := by
  have hlt : front.length < c.entries.length := by
    rw [hc]
    simp only [List.length_append, List.length_cons]
    omega
  have hplace : c.entries.set front.length e = (front ++ [e]) ++ (gap ++ [e]) ++ rest := by
    rw [hc, List.append_assoc, List.set_append_right _ _ (Nat.le_refl _), Nat.sub_self]
    simp
  refine ⟨_, set_of_lt hkind hlt, kind_ofEntries _ _, ?_⟩
  rw [entries_ofEntries (ofKind_set hkind _), hplace]

/-- A record in front of what is kept stands at the end of the front. -/
theorem map_cons_ofEntries (x : Except EvalError (List Entry)) (k : Kind) (e : Entry)
    (front : List Entry) :
    (x.map (e :: ·)).map (fun kept => ofEntries k (front ++ kept))
      = x.map fun kept => ofEntries k (front ++ [e] ++ kept) := by
  cases x with
  | error err => rfl
  | ok kept => simp only [Except.map, List.append_assoc, List.singleton_append]

/-- The invariant of the walk: what is kept of the rest is put behind the front. -/
theorem compactFrom_eq (keep : Entry → Except EvalError Bool) :
    ∀ (rest front gap : List Entry) (c : Collection), c.entries = front ++ gap ++ rest →
      compactFrom keep rest.length front.length gap.length c
        = (keepEach keep rest).map fun kept => ofEntries c.kind (front ++ kept)
  | [], front, gap, c, hc => by
      have hfront : c.entries.take front.length = front := by
        rw [hc, List.append_assoc, List.take_left]
      rw [List.length_nil, compactFrom, truncate_eq_ofEntries, hfront]
      exact congrArg (fun es => Except.ok (ofEntries c.kind es)) (List.append_nil front).symm
  | e :: rest, front, gap, c, hc => by
      have hget : c.get? (front.length + gap.length) = some e := by
        rw [get?_eq, hc, ← List.length_append, List.getElem?_append_right (Nat.le_refl _),
          Nat.sub_self]
        rfl
      rw [List.length_cons, compactFrom, hget, keepEach]
      dsimp only
      cases hkeep : keep e with
      | error err => rfl
      | ok b =>
          cases b with
          | false =>
              have hc' : c.entries = front ++ (gap ++ [e]) ++ rest := by
                rw [hc]
                simp
              have ih := compactFrom_eq keep rest front (gap ++ [e]) c hc'
              rw [List.length_append, List.length_singleton] at ih
              exact ih
          | true =>
              rw [map_cons_ofEntries]
              cases gap with
              | nil =>
                  have hc' : c.entries = (front ++ [e]) ++ [] ++ rest := by
                    rw [hc]
                    simp
                  have ih := compactFrom_eq keep rest (front ++ [e]) [] c hc'
                  rw [List.length_append, List.length_singleton] at ih
                  exact ih
              | cons g gap =>
                  have hkind : e.kind = c.kind := by
                    apply kind_of_mem_entries
                    rw [hc]
                    simp
                  obtain ⟨c', hset, hkind', hc'⟩ := set_behind_front hkind hc
                  have ih := compactFrom_eq keep rest (front ++ [e]) (gap ++ [e]) c' hc'
                  rw [List.length_append, List.length_append, List.length_singleton, hkind'] at ih
                  rw [List.length_cons, if_neg (Nat.succ_ne_zero _), hset]
                  exact ih

/-- The walk over a whole collection keeps what is kept of the list of its records. -/
theorem compact_eq (keep : Entry → Except EvalError Bool) (c : Collection) :
    c.compact keep = (keepEach keep c.entries).map (ofEntries c.kind) := by
  rw [compact, ← length_entries]
  exact compactFrom_eq keep c.entries [] [] c rfl

theorem compact_of_ok {keep : Entry → Except EvalError Bool} {p : Entry → Bool} {c : Collection}
    (h : ∀ e ∈ c.entries, keep e = .ok (p e)) :
    c.compact keep = .ok (ofEntries c.kind (c.entries.filter p)) := by
  rw [compact_eq, keepEach_of_ok h]
  rfl

end Collection

end RecordQuery
