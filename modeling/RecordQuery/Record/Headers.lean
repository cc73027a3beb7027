/-
# Column headers

The names of the columns of a record, in order.  A name is looked up exactly
first and only then ignoring the case of ASCII letters; of several equal names
the first one counts.

An exact name is not searched for: it is looked up in an index of the names, made
by entering one name after the other, and a name that has a place keeps it.
-/
import RecordQuery.Value.Basic

namespace RecordQuery

/-- Equal up to the case of ASCII letters. -/
def sameIgnoringCase (s t : String) : Bool :=
  s.toList.map Char.toLower == t.toList.map Char.toLower

/-- The names of the columns, in order. -/
structure Headers where
  names : List String
deriving DecidableEq, Inhabited

namespace Headers

/-! ## The index -/

/-- Enter a name with its place; a name that is there keeps the place it has. -/
def enter (index : List (String × Nat)) (name : String) (place : Nat) : List (String × Nat) :=
  match index.lookup name with
  | some _ => index
  | none => index ++ [(name, place)]

/-- Enter names one after the other, the first of them with the place `place`. -/
def enterAll (index : List (String × Nat)) : Nat → List String → List (String × Nat)
  | _, [] => index
  | place, name :: names => enterAll (enter index name place) (place + 1) names

/-- The places of the columns under their names. -/
def index (h : Headers) : List (String × Nat) :=
  enterAll [] 0 h.names

/-! ## Looking up a name -/

/-- The column that a name refers to. -/
def position (h : Headers) (name : String) : Option Nat :=
  match h.index.lookup name with
  | some i => some i
  | none => h.names.findIdx? (sameIgnoringCase · name)

/-- The cell under a name, if there is such a column and the row reaches it. -/
def cell? (h : Headers) (cells : List Value) (name : String) : Option Value :=
  (h.position name).bind fun i => cells[i]?

end Headers

end RecordQuery
