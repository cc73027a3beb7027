/-
# The order of values

Values of one shape compare naturally: texts by code point, integers by size,
lists element by element with a shorter list first.  Values of different shape
compare by rank, nil < integer < text < list.  Sorting and grouping rest on
this order alone.
-/
import RecordQuery.Value.Basic

namespace RecordQuery

namespace Value

/-- The place of a shape among the others. -/
def rank : Value → Nat
  | .nil => 0
  | .integer _ => 1
  | .text _ => 2
  | .list _ => 3

mutual

/-- The order of two values. -/
def compare : Value → Value → Ordering
  | .text s, .text t => Ord.compare s.toList t.toList
  | .integer m, .integer n => Ord.compare m.toInt n.toInt
  | .list vs, .list ws => compareList vs ws
  | .nil, .nil => .eq
  | v, w => Ord.compare v.rank w.rank

/-- The order of two lists of values: the first difference decides, and of two
lists that agree as far as they go the shorter comes first. -/
def compareList : List Value → List Value → Ordering
  | [], [] => .eq
  | [], _ :: _ => .lt
  | _ :: _, [] => .gt
  | v :: vs, w :: ws => (compare v w).then (compareList vs ws)

end

/-- Two values that neither comes before the other. -/
def equal (v w : Value) : Bool :=
  compare v w == .eq

/-- Does the first value come before the second? -/
def less (v w : Value) : Bool :=
  compare v w == .lt

/-- The order of two key lists: the first pair of keys that differ decides, and
keys without a partner do not count. -/
def compareKeys : List Value → List Value → Ordering
  | v :: vs, w :: ws => (compare v w).then (compareKeys vs ws)
  | _, _ => .eq

end Value

end RecordQuery
