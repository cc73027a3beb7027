/-
# A grouping cuts a table into its distinct rows

Records are put into buckets one after the other, and the place of a bucket is
looked up under the text of its key.  What there is after some of the records is
written down in `bucketsFor`:

    buckets     one for every key seen, in the order of first sight, with the
                records that have the key, in their order
    slots       under the text of each key, the place of its bucket

`slotFor_bucketsFor` says where the keys are cut by the bucket of the next record,
`add_bucketsFor` that one more record leads to what is written down for one more,
and `fillBuckets_bucketsFor` is the induction over the records.  The text of a key
is as good as the key itself (`bucketId_injective`).

The keys are the rows of the table with the same columns, and it is the same record
that stops either of them.  Every record has one key, so the groups hold every
record once.
-/
import RecordQuery.Proofs.Outcome
import RecordQuery.Proofs.Record.Entries
import RecordQuery.Proofs.Value.Json
import RecordQuery.Query.Execute
import Mathlib.Algebra.GroupWithZero.Nat
import Mathlib.Data.List.Induction
import Mathlib.Data.List.Nodup

namespace RecordQuery

/-! ## First occurrences and classes in a list -/

/-- One more element is a first occurrence, or changes nothing. -/
theorem eraseDups_concat {α : Type} [BEq α] [LawfulBEq α] (l : List α) (a : α) :
    (l ++ [a]).eraseDups = if a ∈ l.eraseDups then l.eraseDups else l.eraseDups ++ [a] := by
  rw [List.eraseDups_append]
  by_cases ha : a ∈ l
  · rw [if_pos (List.mem_eraseDups.mpr ha)]
    simp [List.removeAll, ha]
  · rw [if_neg (fun h => ha (List.mem_eraseDups.mp h))]
    simp [List.removeAll, ha, List.eraseDups_cons]

theorem nodup_eraseDups {α : Type} [BEq α] [LawfulBEq α] (l : List α) : l.eraseDups.Nodup := by
  induction l using List.reverseRecOn with
  | nil => exact List.nodup_nil
  | append_singleton l a ih =>
      rw [eraseDups_concat]
      split
      · exact ih
      · rename_i ha
        have hconcat := List.Nodup.concat ha ih
        rwa [List.concat_eq_append] at hconcat

theorem eraseDups_sublist {α : Type} [BEq α] [LawfulBEq α] (l : List α) :
    l.eraseDups.Sublist l := by
  induction l using List.reverseRecOn with
  | nil => exact .slnil
  | append_singleton l a ih =>
      rw [eraseDups_concat]
      split
      · exact ih.trans (List.sublist_append_left l [a])
      · exact ih.append (List.Sublist.refl [a])

/-- First occurrences stay apart under an injective function. -/
theorem eraseDups_map_of_injective {α β : Type} [BEq α] [LawfulBEq α] [BEq β] [LawfulBEq β]
    {f : α → β} (hf : Function.Injective f) (l : List α) :
    (l.map f).eraseDups = l.eraseDups.map f := by
  induction l using List.reverseRecOn with
  | nil => rfl
  | append_singleton l a ih =>
      rw [List.map_append, List.map_singleton, eraseDups_concat, eraseDups_concat, ih]
      simp only [List.mem_map_of_injective hf]
      split
      · rfl
      · rw [List.map_append, List.map_singleton]

/-- The classes of a list under the values of `f` are the list, cut up. -/
theorem flatMap_filter_perm {α β : Type} [DecidableEq β] (f : α → β) :
    ∀ {bs : List β} {l : List α}, bs.Nodup → (∀ a ∈ l, f a ∈ bs) →
      (bs.flatMap fun b => l.filter fun a => f a = b).Perm l
  | [], l, _, hf => by
      have hnil : l = [] := List.eq_nil_iff_forall_not_mem.mpr fun a ha =>
        List.not_mem_nil (hf a ha)
      rw [hnil, List.flatMap_nil]
  | b :: bs, l, hbs, hf => by
      obtain ⟨hb, hnodup⟩ := List.nodup_cons.mp hbs
      have hothers : ∀ a ∈ l.filter (fun a => !decide (f a = b)), f a ∈ bs := by
        intro a ha
        have hne : f a ≠ b := by simpa using (List.mem_filter.mp ha).2
        exact List.mem_of_ne_of_mem hne (hf a (List.mem_filter.mp ha).1)
      have ih := flatMap_filter_perm f hnodup hothers
      have hsame : (bs.flatMap fun b' => (l.filter fun a => !decide (f a = b)).filter
            fun a => f a = b')
          = bs.flatMap fun b' => l.filter fun a => f a = b' := by
        refine List.flatMap_congr fun b' hb' => ?_
        rw [List.filter_filter]
        refine List.filter_congr fun a _ => ?_
        by_cases ha : f a = b'
        · have hne : f a ≠ b := by
            rw [ha]
            rintro rfl
            exact hb hb'
          simp [ha, ha ▸ hne]
        · simp [ha]
      rw [List.flatMap_cons]
      rw [hsame] at ih
      exact (ih.append_left _).trans (List.filter_append_perm _ l)

theorem sum_length_classes {α β : Type} [DecidableEq β] {f : α → β} {bs : List β} {l : List α}
    (hbs : bs.Nodup) (hf : ∀ a ∈ l, f a ∈ bs) :
    (bs.map fun b => (l.filter fun a => f a = b).length).sum = l.length := by
  have hlength := (flatMap_filter_perm f hbs hf).length_eq
  rwa [List.length_flatMap] at hlength

/-! ## Buckets -/

/-- The bracket at its end says where the text of a key ends, whatever is behind it. -/
theorem bucketId_append_inj {key key' : List Value} {r s : List Char}
    (h : Collection.bucketId key ++ r = Collection.bucketId key' ++ s) : key = key' ∧ r = s := by
  simp only [Collection.bucketId, Json.compact, List.cons_append, List.append_assoc,
    List.cons.injEq, true_and, ← Value.toJsonEach_eq_map] at h
  exact Json.compactItems_append_inj h

theorem bucketId_injective {key key' : List Value}
    (h : Collection.bucketId key = Collection.bucketId key') : key = key' := by
  have happend : Collection.bucketId key ++ [] = Collection.bucketId key' ++ [] := by rw [h]
  exact (bucketId_append_inj happend).1

/-- Keys have one text only when they are one key, and no key's text is the beginning of the
text of another. -/
theorem bucketId_eq_iff (key key' : List Value) :
    (Collection.bucketId key = Collection.bucketId key' ↔ key = key')
      ∧ ∀ r s : List Char, Collection.bucketId key ++ r = Collection.bucketId key' ++ s
          ↔ key = key' ∧ r = s := by
  refine ⟨⟨bucketId_injective, congrArg _⟩, ?_⟩
  intro r s
  constructor
  · exact bucketId_append_inj
  · rintro ⟨rfl, rfl⟩
    rfl

namespace Collection

variable {keyOf : Entry → Except EvalError (List Value)} {k : Kind}

/-- Is it the key of the record? -/
def hasKey (keyOf : Entry → Except EvalError (List Value)) (key : List Value) (e : Entry) : Bool :=
  decide ((keyOf e).toOption = some key)

/-- The keys of the records in the order of first sight. -/
def keysSeen (keyOf : Entry → Except EvalError (List Value)) (es : List Entry) :
    List (List Value) :=
  (es.filterMap fun e => (keyOf e).toOption).eraseDups

/-- The bucket of a key: the records that have it. -/
def bucketFor (keyOf : Entry → Except EvalError (List Value)) (k : Kind) (es : List Entry)
    (key : List Value) : Bucket :=
  ⟨key, ofEntries k (es.filter (hasKey keyOf key))⟩

/-- The places of keys under their texts. -/
def slotsOf (keys : List (List Value)) : List (List Char × Nat) :=
  keys.zipIdx.map fun p => (bucketId p.1, p.2)

/-- The buckets of some keys, with the records that have them. -/
def bucketsOf (keyOf : Entry → Except EvalError (List Value)) (k : Kind)
    (keys : List (List Value)) (es : List Entry) : Buckets :=
  ⟨slotsOf keys, keys.map (bucketFor keyOf k es)⟩

/-- The buckets after some of the records. -/
def bucketsFor (keyOf : Entry → Except EvalError (List Value)) (k : Kind) (es : List Entry) :
    Buckets :=
  bucketsOf keyOf k (keysSeen keyOf es) es

/-! ### One more record -/

theorem hasKey_of_ok {e : Entry} {key : List Value} (h : keyOf e = .ok key) (key' : List Value) :
    hasKey keyOf key' e = decide (key = key') := by
  rw [hasKey, h]
  simp [Except.toOption]

theorem keysSeen_concat {e : Entry} {key : List Value} (h : keyOf e = .ok key) (es : List Entry) :
    keysSeen keyOf (es ++ [e])
      = if key ∈ keysSeen keyOf es then keysSeen keyOf es else keysSeen keyOf es ++ [key] := by
  have hkeys : (es ++ [e]).filterMap (fun e => (keyOf e).toOption)
      = (es.filterMap fun e => (keyOf e).toOption) ++ [key] := by
    rw [List.filterMap_append, List.filterMap_cons, h]
    rfl
  rw [keysSeen, hkeys, eraseDups_concat]
  rfl

theorem bucketFor_concat_self {e : Entry} {key : List Value} (h : keyOf e = .ok key)
    (es : List Entry) :
    bucketFor keyOf k (es ++ [e]) key
      = ⟨key, ofEntries k (es.filter (hasKey keyOf key) ++ [e])⟩ := by
  have he : hasKey keyOf key e = true := by
    rw [hasKey_of_ok h]
    exact decide_eq_true rfl
  rw [bucketFor, List.filter_append, List.filter_cons_of_pos he, List.filter_nil]

theorem map_bucketFor_concat {e : Entry} {key : List Value} (h : keyOf e = .ok key)
    {keys : List (List Value)} (hkeys : key ∉ keys) (es : List Entry) :
    keys.map (bucketFor keyOf k (es ++ [e])) = keys.map (bucketFor keyOf k es) := by
  refine List.map_congr_left fun key' hkey' => ?_
  have he : ¬hasKey keyOf key' e = true := by
    rw [hasKey_of_ok h, decide_eq_true_eq]
    rintro rfl
    exact hkeys hkey'
  rw [bucketFor, List.filter_append, List.filter_cons_of_neg he, List.filter_nil,
    List.append_nil, bucketFor]

/-- A key that was not seen has no records yet. -/
theorem bucketFor_of_notMem {es : List Entry} {key : List Value} (h : key ∉ keysSeen keyOf es) :
    bucketFor keyOf k es key = ⟨key, ofEntries k []⟩ := by
  have hnone : es.filter (hasKey keyOf key) = [] := by
    refine List.filter_eq_nil_iff.mpr fun e he hkey => h ?_
    exact List.mem_eraseDups.mpr (List.mem_filterMap.mpr ⟨e, he, of_decide_eq_true hkey⟩)
  rw [bucketFor, hnone]

/-! ### Looking up, and putting in -/

theorem slotsOf_append (front : List (List Value)) (key : List Value) (back : List (List Value)) :
    ∃ slots, slotsOf (front ++ key :: back)
      = slotsOf front ++ (bucketId key, front.length) :: slots := by
  refine ⟨(back.zipIdx (front.length + 1)).map fun p => (bucketId p.1, p.2), ?_⟩
  rw [slotsOf, List.zipIdx_append, List.map_append, Nat.zero_add, List.zipIdx_cons,
    List.map_cons]
  rfl

theorem lookup_slotsOf_of_notMem {keys : List (List Value)} {key : List Value} (h : key ∉ keys) :
    (slotsOf keys).lookup (bucketId key) = none := by
  refine List.lookup_eq_none_iff.mpr fun p hp => ?_
  obtain ⟨q, hq, rfl⟩ := List.mem_map.mp hp
  rw [bne_iff_ne]
  intro hid
  rw [bucketId_injective hid] at h
  exact h (List.fst_mem_of_mem_zipIdx hq)

theorem lookup_slotsOf {front back : List (List Value)} {key : List Value} (h : key ∉ front) :
    (slotsOf (front ++ key :: back)).lookup (bucketId key) = some front.length := by
  obtain ⟨slots, hslots⟩ := slotsOf_append front key back
  rw [hslots, List.lookup_append, lookup_slotsOf_of_notMem h, List.lookup_cons_self]
  rfl

/-- Looking up the place of a key makes a bucket for it when it has none: the keys
are cut at the place of the bucket. -/
theorem slotFor_bucketsFor {e : Entry} {key : List Value} (h : keyOf e = .ok key)
    (es : List Entry) :
    ∃ front back, keysSeen keyOf (es ++ [e]) = front ++ key :: back
      ∧ (bucketsFor keyOf k es).slotFor (ofEntries k []) key
        = (front.length, bucketsOf keyOf k (front ++ key :: back) es) := by
  rw [keysSeen_concat h]
  by_cases hmem : key ∈ keysSeen keyOf es
  · rw [if_pos hmem]
    obtain ⟨front, back, hkeys, hfront⟩ := List.eq_append_cons_of_mem hmem
    refine ⟨front, back, hkeys, ?_⟩
    rw [Buckets.slotFor, bucketsFor, hkeys]
    dsimp only [bucketsOf]
    rw [lookup_slotsOf hfront]
  · rw [if_neg hmem]
    refine ⟨keysSeen keyOf es, [], rfl, ?_⟩
    rw [Buckets.slotFor, bucketsFor]
    dsimp only [bucketsOf]
    rw [lookup_slotsOf_of_notMem hmem, List.length_map, List.map_append, List.map_singleton,
      bucketFor_of_notMem hmem, slotsOf, slotsOf, List.zipIdx_append, List.map_append,
      Nat.zero_add]
    rfl

theorem pushAt_append (e : Entry) (front : List Bucket) (b : Bucket) (back : List Bucket) :
    pushAt e front.length (front ++ b :: back)
      = (b.members.push e).map fun members => front ++ { b with members } :: back := by
  induction front with
  | nil => rfl
  | cons b' front ih =>
      rw [List.length_cons, List.cons_append, pushAt, ih]
      cases b.members.push e with
      | error err => rfl
      | ok members => rfl

/-- A record of the kind always finds its place at the end. -/
theorem push_ofEntries {es : List Entry} {e : Entry} (hkind : OfKind k es) (he : e.kind = k) :
    (ofEntries k es).push e = .ok (ofEntries k (es ++ [e])) := by
  have hset := @set_size (ofEntries k es) e (he.trans (kind_ofEntries k es).symm)
  rwa [kind_ofEntries, entries_ofEntries hkind] at hset

/-- The step: one more record. -/
theorem add_bucketsFor {e : Entry} {key : List Value} (h : keyOf e = .ok key) {es : List Entry}
    (hkind : OfKind k (es ++ [e])) :
    (bucketsFor keyOf k es).add (ofEntries k []) key e = .ok (bucketsFor keyOf k (es ++ [e])) := by
  obtain ⟨front, back, hkeys, hslot⟩ := @slotFor_bucketsFor keyOf k e key h es
  have hnodup : (front ++ key :: back).Nodup := by
    rw [← hkeys]
    exact nodup_eraseDups _
  obtain ⟨hback, hfront⟩ : key ∉ back ∧ key ∉ front := by
    obtain ⟨-, htail, hdisjoint⟩ := List.nodup_append.mp hnodup
    exact ⟨(List.nodup_cons.mp htail).1, fun hmem => hdisjoint _ hmem _ List.mem_cons_self rfl⟩
  have hpush : (bucketFor keyOf k es key).members.push e
      = .ok (ofEntries k (es.filter (hasKey keyOf key) ++ [e])) :=
    push_ofEntries (hkind.sublist (List.filter_sublist.trans (List.sublist_append_left es [e])))
      (hkind e (List.mem_append_right es List.mem_cons_self))
  have hpushAt := pushAt_append e (front.map (bucketFor keyOf k es)) (bucketFor keyOf k es key)
    (back.map (bucketFor keyOf k es))
  rw [List.length_map, hpush] at hpushAt
  rw [Buckets.add, hslot, bucketsFor, hkeys]
  dsimp only [bucketsOf]
  rw [List.map_append, List.map_cons, hpushAt, List.map_append, List.map_cons,
    map_bucketFor_concat h hfront, map_bucketFor_concat h hback, bucketFor_concat_self h]
  rfl

/-- The run: all the records, up to the first without a key. -/
theorem fillBuckets_bucketsFor : ∀ {rest front : List Entry}, OfKind k (front ++ rest) →
    fillBuckets keyOf (ofEntries k []) (bucketsFor keyOf k front) rest
      = (rest.mapM keyOf).map fun _ => bucketsFor keyOf k (front ++ rest)
  | [], front, _ => by
      rw [List.append_nil]
      rfl
  | e :: rest, front, hkind => by
      rw [List.append_cons] at hkind ⊢
      rw [fillBuckets, List.mapM_cons]
      cases h : keyOf e with
      | error err => rfl
      | ok key =>
          have hstep := add_bucketsFor h (hkind.sublist (List.sublist_append_left _ rest))
          have hrest := fillBuckets_bucketsFor hkind
          dsimp only
          rw [hstep]
          dsimp only
          rw [hrest]
          cases rest.mapM keyOf with
          | error err => rfl
          | ok keys => rfl

/-! ## The groups -/

/-- The groups of a collection. -/
def groupsFor (headers : Headers) (keyOf : Entry → Except EvalError (List Value))
    (c : Collection) : List Group :=
  (keysSeen keyOf c.entries).map fun key =>
    .mk headers key (ofEntries c.kind (c.entries.filter (hasKey keyOf key)))

theorem group_eq (fs : Registry) (columns : List Column) (c : Collection) :
    c.group fs columns
      = (c.entries.mapM (evalColumns fs columns)).map fun _ =>
          .groups (groupsFor (headersOf columns) (evalColumns fs columns) c) := by
  have hrun := @fillBuckets_bucketsFor (evalColumns fs columns) c.kind c.entries []
    c.ofKind_entries
  have hnone : bucketsFor (evalColumns fs columns) c.kind [] = ⟨[], []⟩ := rfl
  rw [hnone, List.nil_append] at hrun
  rw [group, fresh_eq_ofEntries, hrun]
  cases c.entries.mapM (evalColumns fs columns) with
  | error err => rfl
  | ok keys =>
      show Except.ok (Collection.groups (((keysSeen _ _).map _).map _)) = Except.ok (.groups _)
      rw [List.map_map]
      rfl

/-- Records that all have a key are the table's rows under that name. -/
theorem filterMap_toOption : ∀ {es : List Entry} {keys : List (List Value)},
    List.Forall₂ (fun e key => keyOf e = .ok key) es keys →
      es.filterMap (fun e => (keyOf e).toOption) = keys
  | [], [], .nil => rfl
  | e :: es, key :: keys, .cons h hrest => by
      have hkey : (keyOf e).toOption = some key := by
        rw [h]
        rfl
      rw [List.filterMap_cons, hkey]
      exact congrArg (key :: ·) (filterMap_toOption hrest)

/-- The groups of a collection whose records all have a key, the value of `f`. -/
def groupsBy (headers : Headers) (f : Entry → List Value) (c : Collection) : List Group :=
  (c.entries.map f).eraseDups.map fun key =>
    .mk headers key (ofEntries c.kind (c.entries.filter fun e => f e = key))

theorem group_of_ok {fs : Registry} {columns : List Column} {c : Collection}
    {f : Entry → List Value} (h : ∀ e ∈ c.entries, evalColumns fs columns e = .ok (f e)) :
    c.group fs columns = .ok (.groups (groupsBy (headersOf columns) f c)) := by
  have hall := Outcome.mapM_of_ok h
  have hkeys : keysSeen (evalColumns fs columns) c.entries = (c.entries.map f).eraseDups := by
    rw [keysSeen, filterMap_toOption (Outcome.mapM_eq_ok_iff.mp hall)]
  have hmembers : ∀ key : List Value,
      c.entries.filter (hasKey (evalColumns fs columns) key)
        = c.entries.filter fun e => f e = key :=
    fun key => List.filter_congr fun e he => hasKey_of_ok (h e he) key
  rw [group_eq, hall, groupsFor, hkeys]
  simp only [hmembers]
  rfl

/-- A grouping that succeeds has a key for every record. -/
theorem exists_groupsBy_of_group {fs : Registry} {columns : List Column} {c grouped : Collection}
    (h : c.group fs columns = .ok grouped) :
    ∃ f : Entry → List Value, (∀ e ∈ c.entries, evalColumns fs columns e = .ok (f e))
      ∧ grouped = .groups (groupsBy (headersOf columns) f c) := by
  have hrun := h
  rw [group_eq] at hrun
  obtain ⟨keys, hkeys, -⟩ := Outcome.map_eq_ok_iff.mp hrun
  obtain ⟨f, hf⟩ := Outcome.exists_results hkeys
  refine ⟨f, hf, ?_⟩
  rw [group_of_ok hf] at h
  exact (Except.ok.inj h).symm

theorem flatMap_members_groupsBy (headers : Headers) (f : Entry → List Value) (c : Collection) :
    ((groupsBy headers f c).flatMap fun g => g.members.entries)
      = (c.entries.map f).eraseDups.flatMap fun key => c.entries.filter fun e => f e = key := by
  rw [groupsBy, List.flatMap_map]
  exact List.flatMap_congr fun key _ =>
    entries_ofEntries (c.ofKind_entries.sublist List.filter_sublist)

/-- Every record is in one group. -/
theorem flatMap_members_perm (headers : Headers) (f : Entry → List Value) (c : Collection) :
    ((groupsBy headers f c).flatMap fun g => g.members.entries).Perm c.entries := by
  rw [flatMap_members_groupsBy]
  exact flatMap_filter_perm f (nodup_eraseDups _) fun e he =>
    List.mem_eraseDups.mpr (List.mem_map_of_mem he)

theorem mem_keysSeen {e : Entry} {key : List Value} {es : List Entry}
    (h : (keyOf e).toOption = some key) (he : e ∈ es) : key ∈ keysSeen keyOf es :=
  List.mem_eraseDups.mpr (List.mem_filterMap.mpr ⟨e, he, h⟩)

theorem exists_of_mem_keysSeen {key : List Value} {es : List Entry}
    (h : key ∈ keysSeen keyOf es) : ∃ e ∈ es, (keyOf e).toOption = some key :=
  List.mem_filterMap.mp (List.mem_eraseDups.mp h)

theorem map_key_groupsFor (headers : Headers) (c : Collection) :
    (groupsFor headers keyOf c).map Group.key = keysSeen keyOf c.entries := by
  rw [groupsFor, List.map_map]
  exact List.map_id _

theorem members_of_mem_groupsFor {headers : Headers} {c : Collection} {g : Group}
    (h : g ∈ groupsFor headers keyOf c) :
    g.members.kind = c.kind ∧ g.members.entries = c.entries.filter (hasKey keyOf g.key) := by
  obtain ⟨key, -, rfl⟩ := List.mem_map.mp h
  exact ⟨kind_ofEntries _ _, entries_ofEntries (c.ofKind_entries.sublist List.filter_sublist)⟩

theorem headers_of_mem_groupsFor {headers : Headers} {c : Collection} {g : Group}
    (h : g ∈ groupsFor headers keyOf c) : g.headers = headers := by
  obtain ⟨key, -, rfl⟩ := List.mem_map.mp h
  rfl

/-- The key of a group is the key of one of the records. -/
theorem exists_of_mem_groupsFor {headers : Headers} {c : Collection} {g : Group}
    (h : g ∈ groupsFor headers keyOf c) : ∃ e ∈ c.entries, (keyOf e).toOption = some g.key := by
  have hkey : g.key ∈ keysSeen keyOf c.entries := by
    rw [← map_key_groupsFor headers c]
    exact List.mem_map_of_mem h
  exact exists_of_mem_keysSeen hkey

theorem length_key_of_mem_groupsFor {fs : Registry} {columns : List Column} {headers : Headers}
    {c : Collection} {g : Group} (h : g ∈ groupsFor headers (evalColumns fs columns) c) :
    g.key.length = columns.length := by
  obtain ⟨e, -, hkey⟩ := exists_of_mem_groupsFor h
  cases heval : evalColumns fs columns e with
  | error err =>
      rw [heval] at hkey
      cases hkey
  | ok key =>
      rw [heval] at hkey
      cases hkey
      exact Outcome.length_of_mapM heval

/-! ## Every place is in one group -/

/-- The key of the record at a place. -/
def keyAt (keyOf : Entry → Except EvalError (List Value)) (c : Collection) (n : Nat) :
    Option (List Value) :=
  (c.get? n).bind fun e => (keyOf e).toOption

/-- The places of the records that have the key. -/
def placesOf (keyOf : Entry → Except EvalError (List Value)) (c : Collection)
    (key : List Value) : List Nat :=
  (List.range c.size).filter fun n => keyAt keyOf c n = some key

theorem map_get?_range (c : Collection) :
    (List.range c.size).map c.get? = c.entries.map some := by
  refine List.ext_getElem ?_ fun n hn hn' => ?_
  · rw [List.length_map, List.length_map, List.length_range, length_entries]
  · rw [List.getElem_map, List.getElem_map, List.getElem_range, get?_eq,
      List.getElem?_eq_getElem]

theorem map_get?_placesOf (c : Collection) (key : List Value) :
    (placesOf keyOf c key).map c.get? = (c.entries.filter (hasKey keyOf key)).map some := by
  have hplaces : placesOf keyOf c key
      = (List.range c.size).filter ((fun o => decide (o.bind (fun e => (keyOf e).toOption)
          = some key)) ∘ c.get?) := rfl
  rw [hplaces, ← List.filter_map, map_get?_range, List.filter_map]
  rfl

theorem size_of_mem_groupsFor {headers : Headers} {c : Collection} {g : Group}
    (h : g ∈ groupsFor headers keyOf c) : g.members.size = (placesOf keyOf c g.key).length := by
  have hlength := congrArg List.length (@map_get?_placesOf keyOf c g.key)
  rw [List.length_map, List.length_map, ← (members_of_mem_groupsFor h).2, length_entries]
    at hlength
  exact hlength.symm

theorem members_ne_nil {headers : Headers} {c : Collection} {g : Group}
    (h : g ∈ groupsFor headers keyOf c) : g.members.entries ≠ [] := by
  obtain ⟨e, he, hkey⟩ := exists_of_mem_groupsFor h
  rw [(members_of_mem_groupsFor h).2]
  exact List.ne_nil_of_mem (List.mem_filter.mpr ⟨he, decide_eq_true hkey⟩)

theorem keyAt_mem_keysSeen {c : Collection} (h : ∀ e ∈ c.entries, ∃ key, keyOf e = .ok key)
    {n : Nat} (hn : n < c.size) : keyAt keyOf c n ∈ (keysSeen keyOf c.entries).map some := by
  have hlt : n < c.entries.length := by
    rw [length_entries]
    exact hn
  have hmem : c.entries[n] ∈ c.entries := List.getElem_mem hlt
  obtain ⟨key, hkey⟩ := h _ hmem
  have hget : c.get? n = some c.entries[n] := by
    rw [get?_eq, List.getElem?_eq_getElem hlt]
  have hoption : (keyOf c.entries[n]).toOption = some key := by
    rw [hkey]
    rfl
  rw [keyAt, hget, Option.bind_some, hoption]
  exact List.mem_map_of_mem (mem_keysSeen hoption hmem)

/-- The places of all the groups are all the places, each once. -/
theorem placesOf_perm {headers : Headers} {c : Collection}
    (h : ∀ e ∈ c.entries, ∃ key, keyOf e = .ok key) :
    ((groupsFor headers keyOf c).flatMap fun g => placesOf keyOf c g.key).Perm
      (List.range c.size) := by
  have hkeys : ((groupsFor headers keyOf c).flatMap fun g => placesOf keyOf c g.key)
      = (keysSeen keyOf c.entries).flatMap (placesOf keyOf c) := by
    rw [← map_key_groupsFor headers c, List.flatMap_map]
  have hperm := flatMap_filter_perm (keyAt keyOf c)
    ((nodup_eraseDups _).map fun _ _ => Option.some.inj)
    fun n hn => keyAt_mem_keysSeen h (List.mem_range.mp hn)
  rw [List.flatMap_map] at hperm
  rw [hkeys]
  exact hperm

end Collection

open Collection

/-- A grouping stops where the table with the same columns stops.  Otherwise its
groups have the distinct rows of the table for keys, in the order of first sight,
and each holds the records with its key, in their order; so none is empty, no two
share a key, and every record is at one place of one group. -/
theorem group_partitions_table (fs : Registry) (columns : List Column) (c : Collection) :
    match (Plan.table columns).run fs c with
    | .error err => (Plan.group columns).run fs c = .error err
    | .ok table => ∃ gs : List Group, (Plan.group columns).run fs c = .ok (.groups gs)
        ∧ gs.map Group.key = (table.entries.map Entry.values).eraseDups
        ∧ (∀ g ∈ gs, g.members.kind = c.kind
            ∧ g.members.entries = c.entries.filter (hasKey (evalColumns fs columns) g.key))
        ∧ (∀ g ∈ gs, g.members.entries ≠ [])
        ∧ (gs.map Group.key).Nodup
        ∧ (∃ places : Group → List Nat,
            (∀ g ∈ gs, (places g).Pairwise (· < ·)
              ∧ (places g).map c.get? = g.members.entries.map some)
            ∧ (gs.flatMap places).Perm (List.range c.size))
        ∧ (gs.map fun g => g.members.size).sum = c.size := by
  rw [Plan.run, Plan.run, project, group_eq]
  cases h : c.entries.mapM (evalColumns fs columns) with
  | error err => rfl
  | ok rows =>
      have hrows := Outcome.mapM_eq_ok_iff.mp h
      have hkeys : (Collection.rows (rows.map (Row.mk (headersOf columns)))).entries.map
          Entry.values = rows := by
        rw [entries, List.map_map, List.map_map]
        exact List.map_id _
      have hperm := @placesOf_perm (evalColumns fs columns) (headersOf columns) c
        fun e he => Outcome.exists_ok_of_mem hrows he
      refine ⟨_, rfl, ?_, fun g => members_of_mem_groupsFor, fun g => members_ne_nil, ?_,
        ⟨fun g => placesOf (evalColumns fs columns) c g.key, fun g hg => ?_, hperm⟩, ?_⟩
      · rw [hkeys, map_key_groupsFor, keysSeen, filterMap_toOption hrows]
      · rw [map_key_groupsFor]
        exact nodup_eraseDups _
      · refine ⟨List.pairwise_lt_range.filter _, ?_⟩
        rw [map_get?_placesOf, (members_of_mem_groupsFor hg).2]
      · rw [List.map_congr_left fun g hg => size_of_mem_groupsFor hg, ← List.length_flatMap,
          hperm.length_eq, List.length_range]

end RecordQuery
