/-
# Plans

A plan is a tree of steps.  Only its leaves do anything, in order from left to
right.  `simplify` works from the leaves up and rewrites a compound in three ways:
the parts of a compound inside it take its place, one without parts is dropped by
that, and a compound of one part becomes that part.
-/
import RecordQuery.Query.Expr

namespace RecordQuery

/-- What is done to a collection. -/
inductive Plan where
  /-- One plan after the other. -/
  | compound (plans : List Plan)
  /-- Keep the records for which the condition holds. -/
  | filter (condition : Condition)
  /-- Make a table row of every record. -/
  | table (columns : List Column)
  /-- Put records that agree on the columns into one group. -/
  | group (columns : List Column)
  /-- Order the records by the keys. -/
  | sort (keys : List Expr)
deriving Inhabited

namespace Plan

/-- What a plan contributes to a compound around it: the parts of a compound, or
the plan itself. -/
def parts : Plan → List Plan
  | .compound plans => plans
  | p => [p]

/-- The plan made of the given parts; a single part needs no compound. -/
def ofParts : List Plan → Plan
  | [p] => p
  | ps => .compound ps

mutual

/-- The plan with no compound inside a compound and no compound of one part. -/
def simplify : Plan → Plan
  | .compound plans => ofParts (simplifiedParts plans)
  | .filter c => .filter c
  | .table cs => .table cs
  | .group cs => .group cs
  | .sort ks => .sort ks

/-- What several plans contribute to a compound, each simplified before. -/
def simplifiedParts : List Plan → List Plan
  | [] => []
  | p :: ps => p.simplify.parts ++ simplifiedParts ps

end

end Plan

end RecordQuery
