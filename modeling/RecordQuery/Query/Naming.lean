/-
# Names of columns

A column is named after its expression: a field by its name, a literal by its
text, both with letters only, and a call by the function and its arguments,
joined by hyphens.  A function may name the column of its call itself, as `as` does.
-/
import RecordQuery.Query.Eval
import RecordQuery.Text.Alphabetic

namespace RecordQuery

/-- The name that the function of a call gives to its column, if it gives one. -/
def overridingName (fs : Registry) (function : String) (args : List Expr)
    (names : List String) : Option String :=
  (fs.find? function).bind fun f => f.columnName names (evalArgs fs args)

mutual

/-- The name of the column that an expression fills. -/
def Expr.columnName (fs : Registry) : Expr → String
  | .literal text => Text.lettersOnly text
  | .field key =>
      match Key.split key with
      | (some scheme, "") => Text.lettersOnly scheme
      | (_, name) => Text.lettersOnly name
  | .call function args =>
      let names := argNames fs args
      match overridingName fs function args names with
      | some name => name
      | none => "-".intercalate (function :: names)

/-- The names that the arguments of a call would give. -/
def argNames (fs : Registry) : List Expr → List String
  | [] => []
  | arg :: args => arg.columnName fs :: argNames fs args

end

/-- The expression as a column under its own name. -/
def Expr.column (fs : Registry) (e : Expr) : Column :=
  ⟨e.columnName fs, e⟩

end RecordQuery
