/-
# Queries

A query is a list of words and runs with every function at hand: the words are
read as a plan, and the plan is run on a collection.
-/
import RecordQuery.Query.Builtin
import RecordQuery.Query.Execute
import RecordQuery.Query.Parser

namespace RecordQuery

/-- The result of a query. -/
def query (words : List String) (c : Collection) : Except QueryError Collection :=
  match Plan.parse Registry.full words with
  | .error e => .error (.parse e)
  | .ok plan =>
      match plan.run Registry.full c with
      | .error e => .error (.eval e)
      | .ok result => .ok result

/-- A query that can be read is a run of its plan. -/
theorem query_eq_of_parse {words : List String} {p : Plan}
    (h : Plan.parse Registry.full words = .ok p) (c : Collection) :
    query words c = (p.run Registry.full c).mapError .eval := by
  rw [query, h]
  dsimp only
  cases p.run Registry.full c with
  | error err => rfl
  | ok c' => rfl

theorem query_eq_ok_iff {words : List String} {c result : Collection} :
    query words c = .ok result ↔
      ∃ p, Plan.parse Registry.full words = .ok p ∧ p.run Registry.full c = .ok result := by
  unfold query
  cases Plan.parse Registry.full words with
  | error err => simp
  | ok p => cases h : p.run Registry.full c <;> simp [h]

theorem query_eq_eval_error_iff {words : List String} {c : Collection} {err : EvalError} :
    query words c = .error (.eval err) ↔
      ∃ p, Plan.parse Registry.full words = .ok p ∧ p.run Registry.full c = .error err := by
  unfold query
  cases Plan.parse Registry.full words with
  | error err => simp
  | ok p => cases h : p.run Registry.full c <;> simp [h]

end RecordQuery
