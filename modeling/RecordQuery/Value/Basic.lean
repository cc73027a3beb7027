/-
# Values

What a record holds under a key and what an expression evaluates to.  Every
cell that is read starts as `text`; counts, sums and date parts are 64-bit
`integer`s; a group asked for a key of its members answers with a `list`; and
`nil` stands for no value at all.
-/
import RecordQuery.Decimal
import RecordQuery.Text.Blank

namespace RecordQuery

/-- A value of a record. -/
inductive Value where
  | text (s : String)
  | integer (n : Int64)
  | list (vs : List Value)
  | nil
deriving Inhabited

namespace Value

/-! ## Equality -/

mutual

/-- Two values are equal when they have the same shape and equal parts. -/
def decEq : (a b : Value) → Decidable (a = b)
  | .text s, .text t =>
      if h : s = t then isTrue (h ▸ rfl) else isFalse fun e => h (Value.text.inj e)
  | .integer m, .integer n =>
      if h : m = n then isTrue (h ▸ rfl) else isFalse fun e => h (Value.integer.inj e)
  | .list vs, .list ws =>
      match decEqList vs ws with
      | isTrue h => isTrue (h ▸ rfl)
      | isFalse h => isFalse fun e => h (Value.list.inj e)
  | .nil, .nil => isTrue rfl
  | .text _, .integer _ | .text _, .list _ | .text _, .nil
  | .integer _, .text _ | .integer _, .list _ | .integer _, .nil
  | .list _, .text _ | .list _, .integer _ | .list _, .nil
  | .nil, .text _ | .nil, .integer _ | .nil, .list _ => isFalse nofun

/-- Two lists of values are equal when they agree element by element. -/
def decEqList : (vs ws : List Value) → Decidable (vs = ws)
  | [], [] => isTrue rfl
  | v :: vs, w :: ws =>
      match decEq v w, decEqList vs ws with
      | isTrue hv, isTrue hvs => isTrue (hv ▸ hvs ▸ rfl)
      | isFalse hv, _ => isFalse fun e => hv (List.cons.inj e).1
      | _, isFalse hvs => isFalse fun e => hvs (List.cons.inj e).2
  | [], _ :: _ | _ :: _, [] => isFalse nofun

end

instance : DecidableEq Value := decEq

/-! ## Questions about a value -/

/-- Is there anything in the value?  An empty text, zero, an empty list and nil
hold nothing. -/
def isTruthy : Value → Bool
  | .text s => !s.isEmpty
  | .integer n => n != 0
  | .list vs => !vs.isEmpty
  | .nil => false

/-- The integer that the value is or, as a text, spells between blanks. -/
def asInt : Value → Option Int64
  | .integer n => some n
  | .text s => Decimal.int64? (Text.trim s.toList)
  | .list _ | .nil => none

/-- The word for the shape of the value in a message. -/
def typeName : Value → String
  | .text _ => "string"
  | .integer _ => "integer"
  | .list _ => "array"
  | .nil => "nil"

/-- How much there is of the value: characters of a text, elements of a list. -/
def size : Value → Nat
  | .text s => s.length
  | .integer _ => 1
  | .list vs => vs.length
  | .nil => 0

/-- Is there nothing of the value? -/
def isEmpty (v : Value) : Bool :=
  v.size == 0

/-- The elements of a list; any other value is its own single element, and nil
has none. -/
def elements : Value → List Value
  | .list vs => vs
  | .nil => []
  | v => [v]

/-! ## The text of a value -/

mutual

/-- The text of a value: the elements of a list are joined by a comma and a
space at every depth, and nil has no text. -/
def display : Value → String
  | .text s => s
  | .integer n => String.ofList (Decimal.ofInt n.toInt)
  | .list vs => ", ".intercalate (displays vs)
  | .nil => ""

/-- The text of each value. -/
def displays : List Value → List String
  | [] => []
  | v :: vs => display v :: displays vs

end

end Value

end RecordQuery
