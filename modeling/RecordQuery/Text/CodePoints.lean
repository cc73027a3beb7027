/-
# Classes of characters as tables of code points

A property of characters that no formula describes is a list of inclusive
ranges of code points in ascending order.  `Ranges.covers` is the membership
test; every table of the `Text` modules is read through it.
-/

namespace RecordQuery.Text

/-- Inclusive ranges of code points, in ascending order. -/
abbrev Ranges := List (Nat × Nat)

/-- A code point is covered when one of the ranges holds it.  The search ends
at the first range that starts past the code point. -/
def Ranges.covers : Ranges → Nat → Bool
  | [], _ => false
  | (lo, hi) :: rest, n => if n < lo then false else n ≤ hi || Ranges.covers rest n

end RecordQuery.Text
