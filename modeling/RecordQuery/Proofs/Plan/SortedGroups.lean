/-
# Grouping what has been sorted by the same keys

A sort decides by `Value.compareKeys` whether two records tie, and a grouping by the text
of their keys.  Both come down to the keys being equal, so the groups are the ties of the
sort:

    members   sorting moves no record past one that ties with it, so the members of a
              group are the same and in the same order
    groups    the keys of the groups come in the order of the sort, and no two tie
    records   the members of one group after the other are the sorted records

The last is uniqueness of a stable sort once more: the groups in a row are in order, and
the records that tie with any given one are those of its group.
-/
import RecordQuery.Proofs.Plan.Group
import RecordQuery.Proofs.Plan.Sort
import RecordQuery.Query.Builtin

namespace RecordQuery

/-! ## The classes of a list in order -/

section Classes

variable {α β : Type} {le : α → α → Bool} {f : α → β}

/-- Of two elements of one class each comes no later than the other. -/
theorem le_of_tied (htied : ∀ a b, tied le a b = true ↔ f a = f b) {a b : α} (h : f a = f b) :
    le a b = true := by
  have hboth := (htied a b).mpr h
  rw [tied, Bool.and_eq_true] at hboth
  exact hboth.1

/-- Sorting does not move the elements of one class past each other. -/
theorem filter_mergeSort_of_tied [DecidableEq β] (h : TotalPreorder le)
    (htied : ∀ a b, tied le a b = true ↔ f a = f b) (l : List α) (b : β) :
    (l.mergeSort le).filter (fun a => f a = b) = l.filter fun a => f a = b := by
  rw [filter_mergeSort h]
  refine List.mergeSort_of_pairwise (List.pairwise_of_forall_mem_list fun x hx y hy => ?_)
  have hfx : f x = b := of_decide_eq_true (List.mem_filter.mp hx).2
  have hfy : f y = b := of_decide_eq_true (List.mem_filter.mp hy).2
  exact le_of_tied htied (hfx.trans hfy.symm)

variable [BEq β] [LawfulBEq β]

/-- The values of a list in order, each at its first place, are in order. -/
theorem pairwise_eraseDups_map (h : TotalPreorder le)
    (htied : ∀ a b, tied le a b = true ↔ f a = f b) {l : List α}
    (hl : l.Pairwise fun a b => le a b = true) :
    (l.map f).eraseDups.Pairwise fun b b' => ∀ x, f x = b → ∀ y, f y = b' → le x y = true := by
  refine List.Pairwise.sublist (eraseDups_sublist _) (List.pairwise_map.mpr (hl.imp ?_))
  intro a a' haa' x hx y hy
  have hxa : le x a = true := le_of_tied htied hx
  have hay : le a' y = true := le_of_tied htied hy.symm
  exact h.trans x a' y (h.trans x a a' hxa haa') hay

variable [DecidableEq β]

/-- Of all the classes in a row, those elements that are in one class are that class. -/
theorem filter_flatMap_classes (f : α → β) (l : List α) (b : β) : ∀ {bs : List β}, bs.Nodup →
    (bs.flatMap fun b' => l.filter fun a => f a = b').filter (fun a => f a = b)
      = if b ∈ bs then l.filter (fun a => f a = b) else []
  | [], _ => rfl
  | b' :: bs, h => by
      obtain ⟨hb', hbs⟩ := List.nodup_cons.mp h
      rw [List.flatMap_cons, List.filter_append, filter_flatMap_classes f l b hbs]
      by_cases hb : b' = b
      · subst hb
        rw [if_neg hb', if_pos List.mem_cons_self, List.append_nil, List.filter_filter]
        exact List.filter_congr fun a _ => Bool.and_self _
      · have hnone : (l.filter fun a => f a = b').filter (fun a => f a = b) = [] := by
          rw [List.filter_filter, List.filter_eq_nil_iff]
          intro a _ hboth
          rw [Bool.and_eq_true, decide_eq_true_eq, decide_eq_true_eq] at hboth
          exact hb (hboth.2.symm.trans hboth.1)
        have hmem : b ∈ b' :: bs ↔ b ∈ bs := by
          rw [List.mem_cons]
          exact ⟨fun h => h.resolve_left fun heq => hb heq.symm, Or.inr⟩
        rw [hnone, List.nil_append]
        simp only [hmem]

/-- A list in order is its classes in a row, when the classes are what ties. -/
theorem flatMap_classes_of_sorted (h : TotalPreorder le)
    (htied : ∀ a b, tied le a b = true ↔ f a = f b) {l : List α}
    (hl : l.Pairwise fun a b => le a b = true) :
    ((l.map f).eraseDups.flatMap fun b => l.filter fun a => f a = b) = l := by
  refine IsStableSort.eq_of_ties h (List.pairwise_flatMap.mpr ⟨?_, ?_⟩) hl ?_
  · exact fun b _ => hl.filter _
  · refine (pairwise_eraseDups_map h htied hl).imp ?_
    intro b b' hbb' x hx y hy
    exact hbb' x (of_decide_eq_true (List.mem_filter.mp hx).2) y
      (of_decide_eq_true (List.mem_filter.mp hy).2)
  · intro a
    have hclass : tied le a = fun x => decide (f x = f a) := by
      funext x
      rw [Bool.eq_iff_iff, htied, decide_eq_true_eq]
      exact eq_comm
    rw [hclass, filter_flatMap_classes f l (f a) (nodup_eraseDups _)]
    split
    · rfl
    · rename_i hnone
      refine (List.filter_eq_nil_iff.mpr fun x hx hfx => hnone ?_).symm
      rw [← of_decide_eq_true hfx]
      exact List.mem_eraseDups.mpr (List.mem_map_of_mem hx)

end Classes

/-! ## Keys of columns and keys of a sort -/

theorem evalKeys_of_forall₂ {fs : Registry} {e : Entry} : ∀ {columns : List Column}
    {key : List Value}, List.Forall₂ (fun column v => column.expr.eval fs e = .ok v) columns key →
      evalKeys fs (columns.map Column.expr) e = key
  | [], _, h => by
      cases h
      rfl
  | column :: columns, _, h => by
      obtain ⟨v, key, hv, hkey, rfl⟩ := List.forall₂_cons_left_iff.mp h
      have ih := evalKeys_of_forall₂ hkey
      rw [evalKeys] at ih ⊢
      rw [List.map_cons, List.map_cons, hv, ih]

/-- A record whose columns have values is sorted by these. -/
theorem evalColumns_eq_evalKeys {fs : Registry} {columns : List Column} {e : Entry}
    {key : List Value} (h : evalColumns fs columns e = .ok key) :
    evalColumns fs columns e = .ok (evalKeys fs (columns.map Column.expr) e) := by
  rw [h, evalKeys_of_forall₂ (Outcome.mapM_eq_ok_iff.mp h)]

namespace Collection

variable {fs : Registry} {keys : List Expr} {c : Collection}

/-- The collection in the order of its keys. -/
def sorted (fs : Registry) (keys : List Expr) (c : Collection) : Collection :=
  ofEntries c.kind (c.entries.mergeSort (keysLe fs keys))

theorem entries_sorted (fs : Registry) (keys : List Expr) (c : Collection) :
    (c.sorted fs keys).entries = c.entries.mergeSort (keysLe fs keys) :=
  entries_ofEntries fun _ he =>
    kind_of_mem_entries ((List.mergeSort_perm c.entries _).mem_iff.mp he)

/-- The groups are those of the records as they were, in another order. -/
theorem groupsBy_sorted_perm (headers : Headers) :
    (groupsBy headers (evalKeys fs keys) (c.sorted fs keys)).Perm
      (groupsBy headers (evalKeys fs keys) c) := by
  have hkind : (c.sorted fs keys).kind = c.kind := kind_ofEntries _ _
  have hmembers : ∀ key : List Value,
      (c.sorted fs keys).entries.filter (fun e => evalKeys fs keys e = key)
        = c.entries.filter fun e => evalKeys fs keys e = key := by
    intro key
    rw [entries_sorted]
    exact filter_mergeSort_of_tied (totalPreorder_keysLe fs keys) (tied_keysLe_iff fs keys) _ key
  have hkeys : ((c.sorted fs keys).entries.map (evalKeys fs keys)).eraseDups.Perm
      (c.entries.map (evalKeys fs keys)).eraseDups := by
    rw [entries_sorted, List.perm_ext_iff_of_nodup (nodup_eraseDups _) (nodup_eraseDups _)]
    intro key
    rw [List.mem_eraseDups, List.mem_eraseDups]
    exact ((List.mergeSort_perm c.entries _).map _).mem_iff
  rw [groupsBy, groupsBy, hkind]
  simp only [hmembers]
  exact hkeys.map _

/-- The groups in a row are the sorted records. -/
theorem flatMap_members_sorted (headers : Headers) :
    ((groupsBy headers (evalKeys fs keys) (c.sorted fs keys)).flatMap fun g => g.members.entries)
      = (c.sorted fs keys).entries := by
  rw [flatMap_members_groupsBy]
  refine flatMap_classes_of_sorted (totalPreorder_keysLe fs keys) (tied_keysLe_iff fs keys) ?_
  rw [entries_sorted]
  exact ((totalPreorder_keysLe fs keys).isStableSort_mergeSort c.entries).sorted

theorem map_key_groupsBy (headers : Headers) (f : Entry → List Value) (c : Collection) :
    (groupsBy headers f c).map Group.key = (c.entries.map f).eraseDups := by
  rw [groupsBy, List.map_map]
  exact List.map_id _

/-- Keys that are in order and differ are strictly in order. -/
theorem pairwise_key_sorted (headers : Headers) :
    ((groupsBy headers (evalKeys fs keys) (c.sorted fs keys)).map Group.key).Pairwise
      fun key key' => Value.compareKeys key key' = .lt := by
  have hsorted : (c.sorted fs keys).entries.Pairwise fun a b => keysLe fs keys a b = true := by
    rw [entries_sorted]
    exact ((totalPreorder_keysLe fs keys).isStableSort_mergeSort c.entries).sorted
  have hle := pairwise_eraseDups_map (totalPreorder_keysLe fs keys) (tied_keysLe_iff fs keys)
    hsorted
  rw [map_key_groupsBy]
  refine (hle.and (nodup_eraseDups _)).imp_of_mem ?_
  rintro key key' hkey hkey' ⟨hinOrder, hne⟩
  obtain ⟨a, -, rfl⟩ := List.mem_map.mp (List.mem_eraseDups.mp hkey)
  obtain ⟨b, -, rfl⟩ := List.mem_map.mp (List.mem_eraseDups.mp hkey')
  have hab : (Value.compareKeys (evalKeys fs keys a) (evalKeys fs keys b)).isLE = true := by
    rw [← keysLe_eq_isLE]
    exact hinOrder a rfl b rfl
  refine (Ordering.isLE_iff_eq_lt_or_eq_eq.mp hab).resolve_right fun heq => hne ?_
  exact Value.eq_of_compareKeys (length_evalKeys_eq fs keys a b) heq

end Collection

open Collection

/-- A collection that can be grouped, sorted by the same keys and then grouped: the groups
in a row are the sorted records, their keys rise strictly, and they are the groups of the
collection as it was, in another order. -/
theorem group_sorted_by_keys {fs : Registry} {columns : List Column} {c grouped : Collection}
    (h : (Plan.group columns).run fs c = .ok grouped) :
    ∃ (gs gs' : List Group) (sorted : Collection), grouped = .groups gs
      ∧ (Plan.sort (columns.map Column.expr)).run fs c = .ok sorted
      ∧ (Plan.group columns).run fs sorted = .ok (.groups gs')
      ∧ (gs'.flatMap fun g => g.members.entries) = sorted.entries
      ∧ (gs'.map Group.key).Pairwise (fun key key' => Value.compareKeys key key' = .lt)
      ∧ gs'.Perm gs := by
  rw [Plan.run] at h
  obtain ⟨f, hf, -⟩ := exists_groupsBy_of_group h
  have hkeys : ∀ e ∈ c.entries, evalColumns fs columns e
      = .ok (evalKeys fs (columns.map Column.expr) e) :=
    fun e he => evalColumns_eq_evalKeys (hf e he)
  have hsorted : ∀ e ∈ (c.sorted fs (columns.map Column.expr)).entries, evalColumns fs columns e
      = .ok (evalKeys fs (columns.map Column.expr) e) := by
    intro e he
    rw [entries_sorted] at he
    exact hkeys e ((List.mergeSort_perm c.entries _).mem_iff.mp he)
  rw [group_of_ok hkeys] at h
  cases h
  exact ⟨_, _, c.sorted fs (columns.map Column.expr), rfl, sort_eq fs _ c, group_of_ok hsorted,
    flatMap_members_sorted _, pairwise_key_sorted _, groupsBy_sorted_perm _⟩

/-- The group of `a`, whose members are rows with a cell under `n`. -/
def groupOf (a : String) (ns : List String) : Group :=
  .mk ⟨["a"]⟩ [.text a] (.rows (ns.map fun n => ⟨⟨["a", "n"]⟩, [.text a, .text n]⟩))

/-- Three rows, two of them with one key. -/
def twoOfY : Collection :=
  .rows ([("y", "1"), ("x", "2"), ("y", "3")].map fun p =>
    ⟨⟨["a", "n"]⟩, [.text p.1, .text p.2]⟩)

/-- The rows are grouped in the order of sight, and sorted in the order of the keys. -/
theorem group_sorted_twoOfY :
    (Plan.group [⟨"a", .field "h.a"⟩]).run Registry.full twoOfY
        = .ok (.groups [groupOf "y" ["1", "3"], groupOf "x" ["2"]])
      ∧ ∃ (gs : List Group) (sorted : Collection),
          (Plan.sort [.field "h.a"]).run Registry.full twoOfY = .ok sorted
            ∧ (Plan.group [⟨"a", .field "h.a"⟩]).run Registry.full sorted = .ok (.groups gs)
            ∧ (gs.flatMap fun g => g.members.entries) = sorted.entries
            ∧ (gs.map Group.key).Pairwise (fun key key' => Value.compareKeys key key' = .lt)
            ∧ gs.Perm [groupOf "y" ["1", "3"], groupOf "x" ["2"]] := by
  have hgroup : (Plan.group [⟨"a", .field "h.a"⟩]).run Registry.full twoOfY
      = .ok (.groups [groupOf "y" ["1", "3"], groupOf "x" ["2"]]) := rfl
  obtain ⟨_, gs, sorted, hgs, hsort, hsorted, hrecords, hkeys, hperm⟩ :=
    group_sorted_by_keys hgroup
  cases hgs
  exact ⟨hgroup, gs, sorted, hsort, hsorted, hrecords, hkeys, hperm⟩

end RecordQuery
