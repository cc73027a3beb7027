/-
# Records and collections

A record is a table row, a group of records, or a blank one that answers every
key with nil.  A collection holds records of one kind only, and its type says
so.  A group is asked for

  * its size, the number of its members;
  * one of its own columns, the value shared by the members;
  * any other field, the list of what its members answer.

When a member cannot answer, the group reports the key that it passed on, not
the one the member was asked for.
-/
import RecordQuery.Record.Error
import RecordQuery.Record.Headers
import RecordQuery.Record.Key

namespace RecordQuery

/-- A table row: cells under headers.  There may be fewer or more cells than
headers. -/
structure Row where
  headers : Headers
  values : List Value
deriving DecidableEq

mutual

/-- The records that agree on some columns: headers, the shared values, and the
members themselves. -/
inductive Group where
  | mk (headers : Headers) (key : List Value) (members : Collection)

/-- Records of one kind, in order.  Blank records are told apart by nothing, so
their number is all there is. -/
inductive Collection where
  | rows (rs : List Row)
  | groups (gs : List Group)
  | blanks (n : Nat)

end

instance : Inhabited Collection := ⟨.rows []⟩

/-- A single record. -/
inductive Entry where
  | row (r : Row)
  | group (g : Group)
  | blank

/-- The number of records. -/
def Collection.size : Collection → Nat
  | .rows rs => rs.length
  | .groups gs => gs.length
  | .blanks n => n

/-- The records in order. -/
def Collection.entries : Collection → List Entry
  | .rows rs => rs.map .row
  | .groups gs => gs.map .group
  | .blanks n => List.replicate n .blank

namespace Group

/-- The columns that the members agree on. -/
def headers : Group → Headers
  | .mk h _ _ => h

/-- The shared values, one for every column. -/
def key : Group → List Value
  | .mk _ k _ => k

/-- The records that were put together. -/
def members : Group → Collection
  | .mk _ _ c => c

end Group

/-! ## Look-up by key -/

/-- The integer that counts `n` things. -/
def Value.ofSize (n : Nat) : Value :=
  .integer (Int64.ofNat n)

/-- The value of a row under a key. -/
def Row.get (r : Row) (key : String) : Except EvalError Value :=
  let cell := fun name =>
    match r.headers.cell? r.values name with
    | some v => Except.ok v
    | none => .error (.keyNotFound key)
  match Lookup.ofKey key with
  | .size => .ok (.ofSize r.values.length)
  | .sizeOf name => (cell name).map fun v => .ofSize v.size
  | .field name => cell name
  | .unknown => .error (.keyNotFound key)

mutual

/-- The value of a group under a key.  The size of a field is the size of what
the column key of that name finds. -/
def Group.get : Group → String → Except EvalError Value
  | .mk headers own members, key =>
      match Lookup.ofKey key with
      | .size => .ok (.ofSize members.size)
      | .sizeOf name =>
          match headers.cell? own name with
          | some v => .ok (.ofSize v.size)
          | none => (members.gather (Key.column name)).map fun v => .ofSize v.size
      | .field name =>
          match headers.cell? own name with
          | some v => .ok v
          | none => members.gather key
      | .unknown => .error (.keyNotFound key)

/-- The list of what the records answer to a key; one that has no answer makes
the key not found. -/
def Collection.gather : Collection → String → Except EvalError Value
  | .rows rs, key =>
      match rs.mapM (Row.get · key) with
      | .ok vs => .ok (.list vs)
      | .error _ => .error (.keyNotFound key)
  | .groups gs, key =>
      match getEach gs key with
      | .ok vs => .ok (.list vs)
      | .error _ => .error (.keyNotFound key)
  | .blanks n, _ => .ok (.list (List.replicate n .nil))

/-- What each group answers to a key, up to the first that has no answer. -/
def getEach : List Group → String → Except EvalError (List Value)
  | [], _ => .ok []
  | g :: gs, key =>
      match g.get key with
      | .error e => .error e
      | .ok v =>
          match getEach gs key with
          | .error e => .error e
          | .ok vs => .ok (v :: vs)

end

namespace Entry

/-- The value of a record under a key. -/
def get : Entry → String → Except EvalError Value
  | .row r, key => r.get key
  | .group g, key => g.get key
  | .blank, _ => .ok .nil

/-- The members of a group; no other record has any. -/
def members? : Entry → Option Collection
  | .group g => some g.members
  | .row _ | .blank => none

/-- The names of the columns of a record. -/
def columnNames : Entry → List String
  | .row r => r.headers.names
  | .group g => g.headers.names
  | .blank => []

/-- The values of a record by position: the cells of a row, the shared values of
a group. -/
def values : Entry → List Value
  | .row r => r.values
  | .group g => g.key
  | .blank => []

/-- The texts of the values of a record. -/
def cells (e : Entry) : List String :=
  e.values.map Value.display

/-- The kind of collection that stores the record. -/
def kind : Entry → Kind
  | .row _ => .rows
  | .group _ => .groups
  | .blank => .blanks

end Entry

end RecordQuery
