/-
# Sorting a collection is a stable sort of its records

`Collection.sort` evaluates the keys of every record once, sorts the pairs, and
writes the records back place by place.  None of the three can fail: a key without
a value counts as nil, and every record goes back to a collection of its own kind.
What is left is merge sort by `keysLe`, the order of the records under the keys.

The keys of all records are lists of one length, so `keysLe` is a total preorder,
and longer key lists are a lexicographic order: the first keys decide, and the
others where those tie.

`sort_rearranges_places` says what that comes to for the records: every place of the
collection is there once, the keys go up, and of two records with equal keys the one
that stood further to the front still does.
-/
import RecordQuery.Proofs.Record.Entries
import RecordQuery.Proofs.StableSort
import RecordQuery.Proofs.Value.Order
import RecordQuery.Query.Builtin
import RecordQuery.Query.Execute
import Mathlib.Data.List.Forall2
import Mathlib.Data.List.Permutation

namespace RecordQuery

/-! ## The order of records under keys -/

/-- May the first record stand before the second, by their keys? -/
def keysLe (fs : Registry) (keys : List Expr) (a b : Entry) : Bool :=
  Value.compareKeys (evalKeys fs keys a) (evalKeys fs keys b) != .gt

theorem length_evalKeys (fs : Registry) (keys : List Expr) (e : Entry) :
    (evalKeys fs keys e).length = keys.length :=
  List.length_map _

theorem evalKeys_append (fs : Registry) (keys keys' : List Expr) (e : Entry) :
    evalKeys fs (keys ++ keys') e = evalKeys fs keys e ++ evalKeys fs keys' e :=
  List.map_append

theorem keysLe_eq_isLE (fs : Registry) (keys : List Expr) (a b : Entry) :
    keysLe fs keys a b
      = (Value.compareKeys (evalKeys fs keys a) (evalKeys fs keys b)).isLE :=
  Ordering.isLE_eq_not_beq_gt.symm

theorem length_evalKeys_eq (fs : Registry) (keys : List Expr) (a b : Entry) :
    (evalKeys fs keys a).length = (evalKeys fs keys b).length := by
  rw [length_evalKeys, length_evalKeys]

theorem totalPreorder_keysLe (fs : Registry) (keys : List Expr) :
    TotalPreorder (keysLe fs keys) where
  trans a b c hab hbc := by
    rw [keysLe_eq_isLE] at hab hbc ⊢
    exact Value.compareKeys_isLE_trans (length_evalKeys_eq fs keys a b)
      (length_evalKeys_eq fs keys b c) hab hbc
  total a b := by
    rw [keysLe_eq_isLE, keysLe_eq_isLE,
      Value.compareKeys_swap (length_evalKeys_eq fs keys b a)]
    cases Value.compareKeys (evalKeys fs keys a) (evalKeys fs keys b) <;> rfl

/-- Records tie when their keys are equal. -/
theorem tied_keysLe_iff (fs : Registry) (keys : List Expr) (a b : Entry) :
    tied (keysLe fs keys) a b = true ↔ evalKeys fs keys a = evalKeys fs keys b := by
  have hlength := length_evalKeys_eq fs keys a b
  rw [tied, Bool.and_eq_true, keysLe_eq_isLE, keysLe_eq_isLE,
    Value.compareKeys_swap (length_evalKeys_eq fs keys b a)]
  constructor
  · rintro ⟨hab, hba⟩
    exact Value.eq_of_compareKeys hlength (Ordering.eq_eq_of_isLE_of_isLE_swap hab hba)
  · intro heq
    rw [heq, Value.compareKeys_self]
    exact ⟨rfl, rfl⟩

/-- The keys in front decide, and the others where those tie. -/
theorem keysLe_append (fs : Registry) (keys keys' : List Expr) :
    keysLe fs (keys ++ keys') = lex (keysLe fs keys) (keysLe fs keys') := by
  funext a b
  unfold lex
  rw [keysLe_eq_isLE, keysLe_eq_isLE, keysLe_eq_isLE, keysLe_eq_isLE, evalKeys_append,
    evalKeys_append, Value.compareKeys_append _ _ (length_evalKeys_eq fs keys a b),
    Value.compareKeys_swap (length_evalKeys_eq fs keys b a)]
  cases Value.compareKeys (evalKeys fs keys a) (evalKeys fs keys b) <;>
    cases Value.compareKeys (evalKeys fs keys' a) (evalKeys fs keys' b) <;> rfl

namespace Collection

/-! ## Evaluating, sorting and writing back -/

/-- Sorting the records with their keys beside them is sorting by the keys. -/
theorem sortedEntries_evalKeys (fs : Registry) (keys : List Expr) (es : List Entry) :
    sortedEntries (evalKeys fs keys) es = es.mergeSort (keysLe fs keys) := by
  have hpairs : (es.mergeSort (keysLe fs keys)).map (fun e => (evalKeys fs keys e, e))
      = (es.map fun e => (evalKeys fs keys e, e)).mergeSort inOrder :=
    List.map_mergeSort fun _ _ _ _ => rfl
  rw [sortedEntries, ← hpairs, List.map_map]
  exact List.map_id _

/-- Writing records over the places behind the front replaces what was there. -/
theorem setFrom_eq : ∀ (es front old : List Entry) (c : Collection), OfKind c.kind es →
    c.entries = front ++ old → es.length = old.length →
      setFrom front.length es c = .ok (ofEntries c.kind (front ++ es))
  | [], front, old, c, _, hc, hlength => by
      rw [List.length_eq_zero_iff.mp hlength.symm] at hc
      rw [setFrom, ← hc, ofEntries_entries]
  | e :: es, front, [], c, _, _, hlength => nomatch hlength
  | e :: es, front, o :: old, c, hkind, hc, hlength => by
      have he : e.kind = c.kind := hkind e List.mem_cons_self
      have hlt : front.length < c.entries.length := by
        rw [hc, List.length_append, List.length_cons]
        omega
      have hplace : c.entries.set front.length e = (front ++ [e]) ++ old := by
        rw [hc, List.set_append_right _ _ (Nat.le_refl _), Nat.sub_self, List.set_cons_zero,
          List.append_assoc, List.singleton_append]
      have hofkind : OfKind c.kind ((front ++ [e]) ++ old) := by
        rw [← hplace]
        exact ofKind_set he _
      have ih := setFrom_eq es (front ++ [e]) old (ofEntries c.kind ((front ++ [e]) ++ old))
        (by rw [kind_ofEntries]; exact fun e' he' => hkind e' (List.mem_cons_of_mem e he'))
        (entries_ofEntries hofkind) (Nat.succ.inj hlength)
      rw [List.length_append, List.length_singleton, kind_ofEntries] at ih
      rw [setFrom, set_of_lt he hlt, hplace, List.append_cons front e es]
      exact ih

/-- A sort never fails: it gives the stable sort of the records. -/
theorem sort_eq (fs : Registry) (keys : List Expr) (c : Collection) :
    c.sort fs keys = .ok (ofEntries c.kind (c.entries.mergeSort (keysLe fs keys))) := by
  have hperm := List.mergeSort_perm c.entries (keysLe fs keys)
  rw [sort, sortedEntries_evalKeys]
  exact setFrom_eq _ [] c.entries c (fun e he => kind_of_mem_entries (hperm.mem_iff.mp he)) rfl
    hperm.length_eq

end Collection

/-! ## Where the records go -/

/-- The keys of the record at a place. -/
def keysAt (fs : Registry) (keys : List Expr) (c : Collection) (n : Nat) : List Value :=
  ((c.get? n).map (evalKeys fs keys)).getD []

theorem keysAt_of_get? {fs : Registry} {keys : List Expr} {c : Collection} {n : Nat} {e : Entry}
    (h : c.get? n = some e) : keysAt fs keys c n = evalKeys fs keys e := by
  rw [keysAt, h]
  rfl

theorem exists_get?_of_lt {c : Collection} {n : Nat} (h : n < c.size) :
    ∃ e, c.get? n = some e := by
  rw [← Collection.length_entries] at h
  exact ⟨c.entries[n], by rw [Collection.get?_eq, List.getElem?_eq_getElem h]⟩

/-- What a record is sorted by under a key: the value of the key, or nil if it has none. -/
inductive KeyValue (fs : Registry) (e : Entry) (key : Expr) : Value → Prop
  | value {v : Value} : key.eval fs e = .ok v → KeyValue fs e key v
  | none {err : EvalError} : key.eval fs e = .error err → KeyValue fs e key .nil

theorem keyValue_evalKeys (fs : Registry) (keys : List Expr) (e : Entry) :
    List.Forall₂ (KeyValue fs e) keys (evalKeys fs keys e) := by
  rw [evalKeys, List.forall₂_map_right_iff, List.forall₂_same]
  intro key _
  cases hkey : key.eval fs e with
  | ok v => exact .value hkey
  | error err => exact .none hkey

/-- A sort succeeds on every collection, whatever the keys.  The result holds the records of
the collection, each as often as before, with their keys in ascending order; they come from
`places`, and of two places whose keys are equal the one further to the front comes first.
A key that has no value for a record counts as nil. -/
theorem sort_rearranges_places (fs : Registry) (keys : List Expr) (c : Collection) :
    ∃ (c' : Collection) (places : List Nat),
      (Plan.sort keys).run fs c = .ok c'
        ∧ (∀ e, List.Forall₂ (KeyValue fs e) keys (evalKeys fs keys e))
        ∧ c'.kind = c.kind
        ∧ c'.entries.Perm c.entries
        ∧ c'.entries.Pairwise (fun a b =>
            Value.compareKeys (evalKeys fs keys a) (evalKeys fs keys b) ≠ .gt)
        ∧ places.Perm (List.range c.size)
        ∧ c'.entries.map some = places.map c.get?
        ∧ places.Pairwise (fun m n => keysAt fs keys c m = keysAt fs keys c n → m < n) := by
  have hle := totalPreorder_keysLe fs keys
  have hperm := List.mergeSort_perm c.entries (keysLe fs keys)
  have hentries : (Collection.ofEntries c.kind (c.entries.mergeSort (keysLe fs keys))).entries
      = c.entries.mergeSort (keysLe fs keys) :=
    Collection.entries_ofEntries fun _ he => Collection.kind_of_mem_entries (hperm.mem_iff.mp he)
  obtain ⟨places, hplaces, hfrom, horder⟩ := exists_places_mergeSort hle c.entries
  refine ⟨_, places, Collection.sort_eq fs keys c, keyValue_evalKeys fs keys,
    Collection.kind_ofEntries _ _, ?_, ?_, ?_, ?_, ?_⟩
  · rw [hentries]
    exact hperm
  · rw [hentries]
    refine (hle.isStableSort_mergeSort c.entries).sorted.imp ?_
    intro a b hab
    exact bne_iff_ne.mp hab
  · rw [← Collection.length_entries]
    exact hplaces
  · rw [hentries, hfrom]
    refine List.map_congr_left ?_
    intro n _
    exact (Collection.get?_eq c n).symm
  · refine horder.imp_of_mem ?_
    intro m n hm hn hmn heq
    rw [hplaces.mem_iff, List.mem_range, Collection.length_entries] at hm hn
    obtain ⟨a, ha⟩ := exists_get?_of_lt hm
    obtain ⟨b, hb⟩ := exists_get?_of_lt hn
    rw [keysAt_of_get? ha, keysAt_of_get? hb] at heq
    rw [Collection.get?_eq] at ha hb
    exact (hmn a b ha hb).2 ((tied_keysLe_iff fs keys a b).mpr heq)

/-- Three rows, two of which are equal under the first column. -/
def tiedRows : Collection :=
  .rows ([("b", "1"), ("a", "2"), ("b", "3")].map fun p =>
    ⟨⟨["k", "n"]⟩, [.text p.1, .text p.2]⟩)

/-- No row has a value under the second key, so the rows that are equal under the first one
keep their order. -/
theorem sort_rearranges_places_tied :
    (∀ row ∈ tiedRows.entries,
        (Expr.field "h.none").eval .full row = .error (.keyNotFound "h.none"))
      ∧ ∃ c', (Plan.sort [.field "h.k", .field "h.none"]).run .full tiedRows = .ok c'
        ∧ c'.entries.map some = [1, 0, 2].map tiedRows.get? := by
  refine ⟨fun row hrow => ?_, ?_⟩
  · obtain ⟨r, hr, rfl⟩ := List.mem_map.mp hrow
    obtain ⟨p, -, rfl⟩ := List.mem_map.mp hr
    rfl
  obtain ⟨c', places, hrun, -, -, -, hsorted, hperm, hfrom, hstable⟩ :=
    sort_rearranges_places .full [.field "h.k", .field "h.none"] tiedRows
  refine ⟨c', hrun, ?_⟩
  have hplaces : places = [0, 1, 2] ∨ places = [1, 0, 2] ∨ places = [1, 2, 0]
      ∨ places = [0, 2, 1] ∨ places = [2, 0, 1] ∨ places = [2, 1, 0] := by
    have hmem : places ∈ [0, 1, 2].permutations' := List.mem_permutations'.mpr hperm
    simpa [List.permutations', List.permutations'Aux] using hmem
  have hentries : ∀ es : List Entry, es.map some = places.map tiedRows.get? → c'.entries = es :=
    fun es hes => List.map_injective_iff.mpr (fun _ _ => Option.some.inj) (hfrom.trans hes.symm)
  rcases hplaces with rfl | rfl | rfl | rfl | rfl | rfl
  · rw [hentries [_, _, _] rfl] at hsorted
    exact absurd hsorted (by decide)
  · exact hfrom
  · exact absurd hstable (by decide)
  · rw [hentries [_, _, _] rfl] at hsorted
    exact absurd hsorted (by decide)
  · exact absurd hstable (by decide)
  · exact absurd hstable (by decide)

end RecordQuery
