/-
# Evaluation

An expression is read as a function from records to values, and so is each
argument of a call: an aggregate applies its argument to every member of a
group, where any other function applies it to the record itself.  What a call
means is up to the function that the registry has under the name.
-/
import RecordQuery.Query.Function

namespace RecordQuery

/-! ## Expressions and conditions -/

mutual

/-- The value of an expression for a record. -/
def Expr.eval (fs : Registry) : Expr → Reading
  | .literal text => fun _ => .ok (.text text)
  | .field key => fun e => e.get key
  | .call function args =>
      match fs.find? function with
      | some f => f.run (evalArgs fs args)
      | none => fun _ => .error (.unknownFunction function)

/-- The arguments of a call with what they mean. -/
def evalArgs (fs : Registry) : List Expr → List Arg
  | [] => []
  | arg :: args => ⟨arg, arg.eval fs⟩ :: evalArgs fs args

end

/-- Does a condition hold for a record? -/
def Condition.eval (fs : Registry) : Condition → Entry → Except EvalError Bool
  | .not c, e => (c.eval fs e).map (!·)
  | .compare op lhs rhs, e => do
      let l ← lhs.eval fs e
      let r ← rhs.eval fs e
      .ok (op.holds l r)

/-- The values of the columns for a record, up to the first that has none. -/
def evalColumns (fs : Registry) (columns : List Column) (e : Entry) :
    Except EvalError (List Value) :=
  columns.mapM fun column => column.expr.eval fs e

/-- The values of sort keys for a record; a key that has none counts as nil. -/
def evalKeys (fs : Registry) (keys : List Expr) (e : Entry) : List Value :=
  keys.map fun key =>
    match key.eval fs e with
    | .ok v => v
    | .error _ => .nil

theorem evalArgs_eq_map (fs : Registry) : ∀ args : List Expr,
    evalArgs fs args = args.map fun arg => ⟨arg, arg.eval fs⟩
  | [] => rfl
  | arg :: args => by rw [evalArgs, evalArgs_eq_map fs args, List.map_cons]

/-- What the arguments of a call mean. -/
theorem map_read_evalArgs (fs : Registry) (args : List Expr) :
    (evalArgs fs args).map Arg.read = args.map (Expr.eval fs) := by
  rw [evalArgs_eq_map, List.map_map]
  rfl

theorem Expr.eval_call_of_find? {fs : Registry} {function : String} {f : Function}
    (h : fs.find? function = some f) (args : List Expr) :
    (Expr.call function args).eval fs = f.run (evalArgs fs args) := by
  rw [Expr.eval, h]

end RecordQuery
