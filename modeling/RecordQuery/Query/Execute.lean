/-
# Running a plan

Every step turns a collection into another one, or stops the run with the first
error.

  * A filter moves the records that it keeps to the front, place by place, and
    drops what is left behind them; a record is looked at before its place is
    written.
  * A table has one row for every record, all under the same headers.
  * A grouping has one group for every key, in the order in which the keys were
    first seen; keys are told apart by their compact JSON text, and the members
    of a group keep their order.
  * A sort is stable, and a key without a value counts as nil.
-/
import RecordQuery.Query.Eval
import RecordQuery.Query.Plan
import RecordQuery.Value.Json
import RecordQuery.Value.Order

namespace RecordQuery

namespace Collection

/-! ## Filtering in place -/

/-- Look at the `left` records from place `kept + dropped` on.  A record that is
kept moves to place `kept`, once a record before it has been dropped. -/
def compactFrom (keep : Entry → Except EvalError Bool) :
    (left kept dropped : Nat) → Collection → Except EvalError Collection
  | 0, kept, _, c => .ok (c.truncate kept)
  | left + 1, kept, dropped, c =>
      match c.get? (kept + dropped) with
      | none => .ok (c.truncate kept)
      | some e =>
          match keep e with
          | .error err => .error err
          | .ok false => compactFrom keep left kept (dropped + 1) c
          | .ok true =>
              if dropped = 0 then compactFrom keep left (kept + 1) dropped c
              else
                match c.set kept e with
                | .error err => .error err
                | .ok c' => compactFrom keep left (kept + 1) dropped c'

/-- Keep the records for which `keep` says so. -/
def compact (keep : Entry → Except EvalError Bool) (c : Collection) :
    Except EvalError Collection :=
  compactFrom keep c.size 0 0 c

/-! ## Tables -/

/-- The headers that the columns make. -/
def headersOf (columns : List Column) : Headers :=
  ⟨columns.map Column.name⟩

/-- One row for every record, with the values of the columns. -/
def project (fs : Registry) (columns : List Column) (c : Collection) :
    Except EvalError Collection := do
  let values ← c.entries.mapM (evalColumns fs columns)
  .ok (.rows (values.map (Row.mk (headersOf columns))))

/-! ## Groups -/

/-- A group in the making: the key and the members so far. -/
structure Bucket where
  key : List Value
  members : Collection

/-- The groups in the making, and the place of each one under the text of its key. -/
structure Buckets where
  slots : List (List Char × Nat)
  buckets : List Bucket

/-- The text that tells a key apart from every other one. -/
def bucketId (key : List Value) : List Char :=
  (Json.array (key.map Value.toJson)).compact

/-- The place of the bucket of a key.  A key without one gets a new bucket at the
end, whose members are of the kind of `empty`. -/
def Buckets.slotFor (empty : Collection) (key : List Value) (b : Buckets) : Nat × Buckets :=
  match b.slots.lookup (bucketId key) with
  | some n => (n, b)
  | none =>
      let n := b.buckets.length
      (n, ⟨b.slots ++ [(bucketId key, n)], b.buckets ++ [⟨key, empty⟩]⟩)

/-- Put a record at the end of a collection. -/
def push (c : Collection) (e : Entry) : Except EvalError Collection :=
  c.set c.size e

/-- Put a record into the bucket at a place. -/
def pushAt (e : Entry) : Nat → List Bucket → Except EvalError (List Bucket)
  | _, [] => .ok []
  | 0, b :: bs => (b.members.push e).map fun members => { b with members } :: bs
  | n + 1, b :: bs => (pushAt e n bs).map (b :: ·)

/-- Put a record into the bucket of its key. -/
def Buckets.add (empty : Collection) (key : List Value) (e : Entry) (b : Buckets) :
    Except EvalError Buckets :=
  let (n, b) := b.slotFor empty key
  (pushAt e n b.buckets).map fun buckets => { b with buckets }

/-- Put the records into buckets, one after the other. -/
def fillBuckets (keyOf : Entry → Except EvalError (List Value)) (empty : Collection) :
    Buckets → List Entry → Except EvalError Buckets
  | b, [] => .ok b
  | b, e :: es =>
      match keyOf e with
      | .error err => .error err
      | .ok key =>
          match b.add empty key e with
          | .error err => .error err
          | .ok b' => fillBuckets keyOf empty b' es

/-- One group for every key. -/
def group (fs : Registry) (columns : List Column) (c : Collection) :
    Except EvalError Collection := do
  let filled ← fillBuckets (evalColumns fs columns) c.fresh ⟨[], []⟩ c.entries
  .ok (.groups (filled.buckets.map fun b => .mk (headersOf columns) b.key b.members))

/-! ## Order -/

/-- Overwrite the places from `n` on. -/
def setFrom : Nat → List Entry → Collection → Except EvalError Collection
  | _, [], c => .ok c
  | n, e :: es, c =>
      match c.set n e with
      | .error err => .error err
      | .ok c' => setFrom (n + 1) es c'

/-- May the first record with its keys stand before the second? -/
def inOrder (a b : List Value × Entry) : Bool :=
  Value.compareKeys a.1 b.1 != .gt

/-- The records in the order of their keys; records with equal keys keep theirs. -/
def sortedEntries (keysOf : Entry → List Value) (es : List Entry) : List Entry :=
  ((es.map fun e => (keysOf e, e)).mergeSort inOrder).map Prod.snd

/-- The collection in the order of its keys. -/
def sort (fs : Registry) (keys : List Expr) (c : Collection) : Except EvalError Collection :=
  setFrom 0 (sortedEntries (evalKeys fs keys) c.entries) c

end Collection

/-! ## Plans -/

mutual

/-- What a plan makes of a collection. -/
def Plan.run (fs : Registry) : Plan → Collection → Except EvalError Collection
  | .compound plans, c => runAll fs plans c
  | .filter condition, c => c.compact (condition.eval fs)
  | .table columns, c => c.project fs columns
  | .group columns, c => c.group fs columns
  | .sort keys, c => c.sort fs keys

/-- What several plans make of a collection, one after the other. -/
def runAll (fs : Registry) : List Plan → Collection → Except EvalError Collection
  | [], c => .ok c
  | p :: ps, c =>
      match p.run fs c with
      | .error err => .error err
      | .ok c' => runAll fs ps c'

end

end RecordQuery
