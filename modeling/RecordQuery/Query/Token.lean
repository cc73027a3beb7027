/-
# Tokens

A token is a query word together with what it is for: a terminator ends the
list before it, `not` negates the condition after it, a comparison stands
between two operands, and every other word is an expression.
-/
import RecordQuery.Query.Expr

namespace RecordQuery

/-- A classified query word. -/
inductive Token where
  | terminator (word : String)
  | not
  | compare (op : Comparison)
  | value (e : Expr)
deriving Inhabited

namespace Token

/-- The kinds of token that a pattern tells apart. -/
inductive Kind where
  | terminator
  | not
  | equals
  | contains
  | containsIgnoringCase
  | field
  | literal
  | call
deriving DecidableEq

/-- The kind of a token. -/
def kind : Token → Kind
  | .terminator _ => .terminator
  | .not => .not
  | .compare .equals => .equals
  | .compare .contains => .contains
  | .compare .containsIgnoringCase => .containsIgnoringCase
  | .value (.field _) => .field
  | .value (.literal _) => .literal
  | .value (.call _ _) => .call

/-- The kinds of the first tokens, when each is among those that the pattern
accepts at its place; tokens beyond the pattern do not matter. -/
def matching : List Token → List (List Kind) → Option (List Kind)
  | _, [] => some []
  | [], _ :: _ => none
  | t :: ts, accepted :: pattern =>
      if t.kind ∈ accepted then (matching ts pattern).map (t.kind :: ·) else none

/-- The kinds that an operand of a comparison can have. -/
def operandKinds : List Kind :=
  [.field, .literal]

/-- The kinds of the comparisons. -/
def comparisonKinds : List Kind :=
  [.equals, .contains, .containsIgnoringCase]

/-- An operand, a comparison and another operand. -/
def comparisonPattern : List (List Kind) :=
  [operandKinds, comparisonKinds, operandKinds]

end Token

end RecordQuery
