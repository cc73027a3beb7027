/-
# From words to a plan

A query is a sequence of clauses, each begun by its keyword:

    filter | where   [filter | where] condition …      up to `into`, `sort` or the end
    into [into] table value …
    into [into] summary value … [calculate value …]
    sort value …

Every production takes the words that are left and gives what it built with the
words that it left over.  A condition looks at three words at a time, and a
list of values takes all words up to the next terminator; words are classified
before anything is built from them, so an unknown word is reported first.
-/
import RecordQuery.Query.Naming
import RecordQuery.Query.Word

namespace RecordQuery

namespace Parser

/-- What a production gives: what it built, and the words that are left. -/
abbrev Production (α : Type) := List String → Except ParseError (α × List String)

/-! ## Conditions -/

/-- The comparison that three tokens make. -/
def comparison? (tokens : List Token) : Option Condition :=
  match tokens with
  | [.value lhs, .compare op, .value rhs] =>
      if (Token.matching tokens Token.comparisonPattern).isSome then some (.compare op lhs rhs)
      else none
  | _ => none

/-- `not` and a condition, or two operands with a comparison between them. -/
def condition : Production Condition
  | [] => .error (.nothingFound [])
  | word :: words =>
      match scan 3 (word :: words) with
      | .error e => .error e
      | .ok (.not :: _, _) => (condition words).map fun (c, rest) => (.not c, rest)
      | .ok (tokens, rest) =>
          match comparison? tokens with
          | some c => .ok (c, rest)
          | none => .error (.nothingFound (word :: words))

/-- A condition takes three words at least. -/
theorem length_condition : ∀ {words : List String} {c : Condition} {rest : List String},
    condition words = .ok (c, rest) → rest.length + 3 ≤ words.length
  | [], _, _, h => by simp [condition] at h
  | word :: words, _, _, h => by
      unfold condition at h
      split at h
      · cases h
      · cases hin : condition words with
        | error e => simp [hin, Except.map] at h
        | ok found =>
            obtain ⟨c, rest⟩ := found
            have ih := length_condition hin
            simp only [hin, Except.map, Except.ok.injEq, Prod.mk.injEq] at h
            obtain ⟨-, rfl⟩ := h
            rw [List.length_cons]
            omega
      · rename_i tokens rest _ hscan
        have hlength := length_scan hscan
        split at h
        · rename_i c hc
          simp only [Except.ok.injEq, Prod.mk.injEq] at h
          obtain ⟨-, rfl⟩ := h
          unfold comparison? at hc
          split at hc
          · simp only [List.length_cons, List.length_nil] at hlength ⊢
            omega
          · cases hc
        · cases h

/-- The words without a `filter` or `where` in front. -/
def skipFilterWord : List String → List String
  | [] => []
  | word :: words => if word = "filter" ∨ word = "where" then words else word :: words

theorem length_skipFilterWord (words : List String) :
    (skipFilterWord words).length ≤ words.length := by
  fun_cases skipFilterWord words <;> simp

/-- Conditions up to `into`, `sort` or the end. -/
def conditions (words : List String) : Except ParseError (List Condition × List String) :=
  if words.head?.all fun word => word = "into" ∨ word = "sort" then .ok ([], words)
  else
    match h : condition (skipFilterWord words) with
    | .error e => .error e
    | .ok (c, rest) =>
        have := length_condition h
        have := length_skipFilterWord words
        (conditions rest).map fun (cs, left) => (c :: cs, left)
termination_by words.length

/-- The filters of a `filter` clause. -/
def filters : Production Plan := fun words =>
  (conditions words).map fun (cs, rest) =>
    ((Plan.compound (cs.map Plan.filter)).simplify, rest)

/-! ## Lists of values -/

mutual

/-- The first function that an expression calls and that is not registered. -/
def unknownCall? (fs : Registry) : Expr → Option String
  | .literal _ | .field _ => none
  | .call function args => if fs.knows function then unknownArg? fs args else some function

/-- The first unregistered function in several expressions. -/
def unknownArg? (fs : Registry) : List Expr → Option String
  | [] => none
  | e :: es => (unknownCall? fs e).or (unknownArg? fs es)

end

/-- The expression that a token is, with registered functions only. -/
def value (fs : Registry) : Token → Except ParseError Expr
  | .value e =>
      match unknownCall? fs e with
      | some function => .error (.unknownFunction function)
      | none => .ok e
  | token => .error (.unexpectedToken token)

/-- The expressions up to the next terminator. -/
def values (fs : Registry) : Production (List Expr) := fun words => do
  let (tokens, rest) ← scanAll words
  let es ← tokens.mapM (value fs)
  .ok (es, rest)

/-- The expressions up to the next terminator; there has to be one. -/
def someValues (fs : Registry) : Production (List Expr) := fun words => do
  let (es, rest) ← values fs words
  if es.isEmpty then .error (.nothingFound words) else .ok (es, rest)

/-! ## Clauses -/

/-- The columns of a table. -/
def table (fs : Registry) : Production Plan := fun words => do
  let (es, rest) ← someValues fs words
  .ok (.table (es.map (Expr.column fs)), rest)

/-- The column of a group, passed on under its name. -/
def passedOn (c : Column) : Column :=
  ⟨c.name, .field (Key.column c.name)⟩

/-- The plan that groups by `keys` and, when there are calculated columns, makes a
table of the keys and those columns. -/
def summaryPlan (keys calculated : List Column) : Plan :=
  if calculated.isEmpty then .group keys
  else .compound [.group keys, .table (keys.map passedOn ++ calculated)]

/-- The columns of a group, and the columns to calculate for each. -/
def summary (fs : Registry) : Production Plan := fun words => do
  let (es, rest) ← someValues fs words
  let keys := es.map (Expr.column fs)
  match rest with
  | "calculate" :: words' => do
      let (calculated, left) ← values fs words'
      .ok (summaryPlan keys (calculated.map (Expr.column fs)), left)
  | _ => .ok (.group keys, rest)

/-- The words without an `into` in front. -/
def skipInto : List String → List String
  | "into" :: words => words
  | words => words

/-- What a collection is made into. -/
def into (fs : Registry) : Production Plan := fun words =>
  match skipInto words with
  | "table" :: rest => table fs rest
  | "summary" :: rest => summary fs rest
  | other :: _ => .error (.unknownIntoTarget other)
  | [] => .error (.unknownIntoTarget "")

/-- The keys to sort by. -/
def sort (fs : Registry) : Production Plan := fun words => do
  let (keys, rest) ← someValues fs words
  .ok (.sort keys, rest)

/-- The clause that a keyword begins. -/
def clause (fs : Registry) (keyword : String) : Production Plan := fun words =>
  if keyword = "filter" ∨ keyword = "where" then filters words
  else if keyword = "into" then into fs words
  else if keyword = "sort" then sort fs words
  else .error (.unknownExpression keyword)

/-! ## Queries -/

/-- The clauses of a query in order.  A clause that left as many words as it was
given would be read for ever, and is refused. -/
def clauses (fs : Registry) (words : List String) : Except ParseError (List Plan) :=
  match words with
  | [] => .ok []
  | keyword :: tail =>
      match clause fs keyword tail with
      | .error e => .error e
      | .ok (plan, rest) =>
          if _h : rest.length < tail.length + 1 then
            (clauses fs rest).map (plan :: ·)
          else .error (.noProgress rest)
termination_by words.length

end Parser

/-- The plan that the words of a query describe; no words describe the plan that
leaves everything as it is. -/
def Plan.parse (fs : Registry) (words : List String) : Except ParseError Plan :=
  (Parser.clauses fs words).map fun plans => (Plan.compound plans).simplify

end RecordQuery
