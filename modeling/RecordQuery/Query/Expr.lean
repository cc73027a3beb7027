/-
# Expressions of the query language

A value expression is a literal, a field under its key, or a call of a function
with arguments.  A condition compares two expressions by their texts, or negates
a condition.  A column is an expression with the name of the column it fills.
-/
import RecordQuery.Text.Lowercase
import RecordQuery.Text.Occurrence
import RecordQuery.Value.Basic

namespace RecordQuery

/-- An expression that gives a value for a record. -/
inductive Expr where
  | literal (text : String)
  | field (key : String)
  | call (function : String) (args : List Expr)
deriving Inhabited

/-- A way of comparing two values. -/
inductive Comparison where
  | equals
  | contains
  | containsIgnoringCase
deriving DecidableEq

/-- Does the comparison hold between the texts of two values? -/
def Comparison.holds (op : Comparison) (lhs rhs : Value) : Bool :=
  let l := lhs.display.toList
  let r := rhs.display.toList
  match op with
  | .equals => l == r
  | .contains => Text.occursIn r l
  | .containsIgnoringCase => Text.occursIn (Text.lowercase r) (Text.lowercase l)

/-- An expression that is true or false of a record. -/
inductive Condition where
  | not (c : Condition)
  | compare (op : Comparison) (lhs rhs : Expr)

/-- An expression with the name of the column that it fills. -/
structure Column where
  name : String
  expr : Expr
deriving Inhabited

end RecordQuery
