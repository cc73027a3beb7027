/-
# The objects of a document

A record becomes an object with one member for every column name.  The value is not taken by
position: it is asked for under the key of the column, and names that come again overwrite
what was there.  For a record with a value for each of its columns this comes to the same as
taking the value of the first column of the name (`Entry.isObjectOf_toObject`):

    names    the members are called as the columns are
    nodup    no two members have one name
    value    a member is the JSON value of the value of the first column of its name

A JSON value is of the kind that its value is of (`IsJsonOf`), at every depth:

    text     a string
    integer  a number
    list     an array with an item for every element
    nil      null

Members are kept in ascending order, so a name is put in place of an equal one and of nothing
else (`mem_insert_iff`).
-/
import RecordQuery.Proofs.Record.Column
import RecordQuery.Render.Output
import Mathlib.Data.List.Nodup

namespace RecordQuery

namespace Json

/-! ## Members in ascending order -/

/-- The names ascend, so none comes twice. -/
def Ascending (o : Object) : Prop :=
  o.Pairwise fun m n => Ord.compare m.1.toList n.1.toList = .lt

variable {name other : String} {o : Object}

theorem Ascending.nodup (h : Ascending o) : (o.map (·.1)).Nodup := by
  rw [List.Nodup, List.pairwise_map]
  refine h.imp fun hlt heq => ?_
  rw [heq, Std.ReflOrd.compare_self] at hlt
  cases hlt

theorem mem_insert {m : String × Json} {j : Json} (h : m ∈ Object.insert name j o) :
    m = (name, j) ∨ m ∈ o := by
  induction o with
  | nil => exact Or.inl (List.mem_singleton.mp h)
  | cons first rest ih =>
      obtain ⟨other, k⟩ := first
      rw [Object.insert] at h
      split at h
      · exact List.mem_cons.mp h
      · exact (List.mem_cons.mp h).imp id (List.mem_cons_of_mem _)
      · obtain hfirst | hrest := List.mem_cons.mp h
        · exact Or.inr (List.mem_cons.mpr (Or.inl hfirst))
        · exact (ih hrest).imp id (List.mem_cons_of_mem _)

theorem ascending_insert (j : Json) (h : Ascending o) : Ascending (Object.insert name j o) := by
  induction o with
  | nil => exact List.pairwise_singleton _ _
  | cons first rest ih =>
      obtain ⟨other, k⟩ := first
      obtain ⟨hfirst, hrest⟩ := List.pairwise_cons.mp h
      rw [Object.insert]
      split
      case h_1 hlt =>
        refine List.pairwise_cons.mpr ⟨fun m hm => ?_, h⟩
        obtain rfl | hm := List.mem_cons.mp hm
        · exact hlt
        · exact Std.TransCmp.lt_trans hlt (hfirst m hm)
      case h_2 heq =>
        refine List.pairwise_cons.mpr ⟨fun m hm => ?_, hrest⟩
        rw [Std.compare_eq_iff_eq.mp heq]
        exact hfirst m hm
      case h_3 hgt =>
        refine List.pairwise_cons.mpr ⟨fun m hm => ?_, ih hrest⟩
        obtain rfl | hm := mem_insert hm
        · exact Std.OrientedCmp.gt_iff_lt.mp hgt
        · exact hfirst m hm

theorem mem_insert_self (j : Json) (o : Object) : (name, j) ∈ Object.insert name j o := by
  induction o with
  | nil => exact List.mem_cons_self
  | cons first rest ih =>
      obtain ⟨other, k⟩ := first
      rw [Object.insert]
      split
      · exact List.mem_cons_self
      · exact List.mem_cons_self
      · exact List.mem_cons_of_mem _ ih

theorem mem_insert_of_ne {m : String × Json} (j : Json) (hne : m.1 ≠ name) (h : m ∈ o) :
    m ∈ Object.insert name j o := by
  induction o with
  | nil => exact absurd h List.not_mem_nil
  | cons first rest ih =>
      obtain ⟨other, k⟩ := first
      rw [Object.insert]
      split
      case h_1 => exact List.mem_cons_of_mem _ h
      case h_2 heq =>
        obtain rfl | hrest := List.mem_cons.mp h
        · exact absurd (String.ext (Std.compare_eq_iff_eq.mp heq)).symm hne
        · exact List.mem_cons_of_mem _ hrest
      case h_3 =>
        obtain rfl | hrest := List.mem_cons.mp h
        · exact List.mem_cons_self
        · exact List.mem_cons_of_mem _ (ih hrest)

/-- What is in an object after an insertion: the new member, and the others under other
names. -/
theorem mem_insert_iff {m : String × Json} {j : Json} (h : Ascending o) :
    m ∈ Object.insert name j o ↔ m = (name, j) ∨ m.1 ≠ name ∧ m ∈ o := by
  constructor
  · intro hm
    by_cases hname : m.1 = name
    · left
      exact List.inj_on_of_nodup_map (ascending_insert j h).nodup hm (mem_insert_self j o) hname
    · exact (mem_insert hm).imp id fun hm => ⟨hname, hm⟩
  · rintro (rfl | ⟨hne, hm⟩)
    · exact mem_insert_self j o
    · exact mem_insert_of_ne j hne hm

/-! ## One insertion after another -/

/-- The object has a member for each of the names, with the value of the name, and no other. -/
structure Filled (value : String → Json) (names : List String) (o : Object) : Prop where
  ascending : Ascending o
  mem_iff : ∀ m : String × Json, m ∈ o ↔ m.1 ∈ names ∧ m.2 = value m.1

theorem filled_nil (value : String → Json) : Filled value [] [] where
  ascending := List.Pairwise.nil
  mem_iff m := by simp

theorem Filled.insert {value : String → Json} {names : List String} (h : Filled value names o)
    (name : String) : Filled value (names ++ [name]) (o.insert name (value name)) where
  ascending := ascending_insert _ h.ascending
  mem_iff m := by
    obtain ⟨n, j⟩ := m
    rw [mem_insert_iff h.ascending, h.mem_iff, List.mem_append, List.mem_singleton, Prod.mk.injEq]
    by_cases hname : n = name
    · simp [hname]
    · simp [hname]

theorem Filled.foldl_insert {value : String → Json} {names : List String}
    (h : Filled value names o) (more : List String) :
    Filled value (names ++ more) (more.foldl (fun o name => o.insert name (value name)) o) := by
  induction more generalizing names o with
  | nil => rwa [List.append_nil]
  | cons name more ih =>
      have hnext := ih (h.insert name)
      rwa [List.append_assoc] at hnext

end Json

/-! ## The object of a record -/

/-- The JSON value is of the kind of the value, and holds what it holds. -/
inductive IsJsonOf : Value → Json → Prop
  | text (s : String) : IsJsonOf (.text s) (.string s)
  | integer (n : Int64) : IsJsonOf (.integer n) (.number n)
  | list {vs : List Value} {items : List Json} :
      List.Forall₂ IsJsonOf vs items → IsJsonOf (.list vs) (.array items)
  | nil : IsJsonOf .nil .null

mutual

theorem isJsonOf_toJson : ∀ v : Value, IsJsonOf v v.toJson
  | .text s => .text s
  | .integer n => .integer n
  | .list vs => .list (forall₂_toJsonEach vs)
  | .nil => .nil

theorem forall₂_toJsonEach : ∀ vs : List Value, List.Forall₂ IsJsonOf vs (Value.toJsonEach vs)
  | [] => .nil
  | v :: vs => .cons (isJsonOf_toJson v) (forall₂_toJsonEach vs)

end

/-- The object has the values of the record under the names of its columns. -/
structure IsObjectOf (e : Entry) (o : Json.Object) : Prop where
  names : ∀ n : String, n ∈ o.map (·.1) ↔ n ∈ e.columnNames
  nodup : (o.map (·.1)).Nodup
  value : ∀ (n : String) (j : Json), (n, j) ∈ o → ∃ (i : Nat) (v : Value),
    e.columnNames[i]? = some n ∧ (∀ k < i, e.columnNames[k]? ≠ some n)
      ∧ e.values[i]? = some v ∧ IsJsonOf v j

theorem Entry.filled_toObject (e : Entry) : Json.Filled e.member e.columnNames e.toObject :=
  (Json.filled_nil e.member).foldl_insert e.columnNames

/-- A record with one value for each of its columns has, as the member of a name, the value of
the first column of the name. -/
theorem Entry.exists_member_eq {e : Entry} {name : String} (hname : name ∈ e.columnNames)
    (hvalues : e.values.length = e.columnNames.length) :
    ∃ v, e.values[e.columnNames.idxOf name]? = some v ∧ e.member name = v.toJson := by
  obtain ⟨v, hv, hget⟩ := e.get_column hname hvalues
  refine ⟨v, hv, ?_⟩
  rw [Entry.member, hget]

theorem Entry.isObjectOf_toObject {e : Entry} (h : e.values.length = e.columnNames.length) :
    IsObjectOf e e.toObject := by
  have hfilled := e.filled_toObject
  constructor
  case names =>
    intro n
    simp [hfilled.mem_iff]
  case nodup => exact hfilled.ascending.nodup
  case value =>
    intro n j hm
    obtain ⟨hname, hj⟩ : n ∈ e.columnNames ∧ j = e.member n := (hfilled.mem_iff (n, j)).mp hm
    obtain ⟨v, hv, hmember⟩ := exists_member_eq hname h
    refine ⟨e.columnNames.idxOf n, v, List.getElem?_idxOf hname, fun k hk heq => ?_, hv, ?_⟩
    · obtain ⟨_, hk'⟩ := List.getElem?_eq_some_iff.mp heq
      have hother : (e.columnNames[k] == n) = false := List.not_of_lt_findIdx hk
      rw [hk', beq_self_eq_true] at hother
      exact Bool.noConfusion hother
    · rw [hj, hmember]
      exact isJsonOf_toJson v

/-- A document is an array with an object for every record, in the order of the records. -/
theorem toDocument_objects {c : Collection}
    (h : ∀ e ∈ c.entries, e.values.length = e.columnNames.length) :
    ∃ objects, c.toDocument = .array (objects.map .object)
      ∧ List.Forall₂ IsObjectOf c.entries objects := by
  refine ⟨c.entries.map Entry.toObject, ?_, ?_⟩
  · rw [Collection.toDocument, List.map_map]
    rfl
  · rw [List.forall₂_map_right_iff, List.forall₂_same]
    intro e he
    exact e.isObjectOf_toObject (h e he)

/-- A row with column names that are easily taken for something else. -/
def oddlyNamed : Row :=
  ⟨⟨["", "sz.A", "a", "A", "a"]⟩,
    [.text "x", .integer 7, .list [.nil, .integer 1], .nil, .text "z"]⟩

/-- The same names over a group, whose members have columns of these names too. -/
def oddlyGrouped : Group :=
  .mk oddlyNamed.headers oddlyNamed.values (.rows [oddlyNamed])

/-- No name, another scheme, a name that differs in case only, and a name twice, on a row and
on a group. -/
theorem toDocument_objects_oddNames :
    (∀ e ∈ (Collection.rows [oddlyNamed]).entries, e.values.length = e.columnNames.length)
      ∧ (∀ e ∈ (Collection.groups [oddlyGrouped]).entries,
        e.values.length = e.columnNames.length)
      ∧ (∃ objects, (Collection.rows [oddlyNamed]).toDocument = .array (objects.map .object)
        ∧ List.Forall₂ IsObjectOf (Collection.rows [oddlyNamed]).entries objects)
      ∧ (∃ objects, (Collection.groups [oddlyGrouped]).toDocument = .array (objects.map .object)
        ∧ List.Forall₂ IsObjectOf (Collection.groups [oddlyGrouped]).entries objects)
      ∧ (Collection.groups [oddlyGrouped]).toDocument
        = .array [.object [("", .string "x"), ("A", .null), ("a", .array [.null, .number 1]),
          ("sz.A", .number 7)]] := by
  have hrow : ∀ e ∈ (Collection.rows [oddlyNamed]).entries,
      e.values.length = e.columnNames.length := by
    intro e he
    rw [List.mem_singleton.mp he]
    rfl
  have hgroup : ∀ e ∈ (Collection.groups [oddlyGrouped]).entries,
      e.values.length = e.columnNames.length := by
    intro e he
    rw [List.mem_singleton.mp he]
    rfl
  exact ⟨hrow, hgroup, toDocument_objects hrow, toDocument_objects hgroup, rfl⟩

end RecordQuery
