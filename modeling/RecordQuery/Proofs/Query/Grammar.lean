/-
# The grammar of a query

A query is a list of words, and this is the language of those lists, said without
the parser: no look-ahead, no words left over, no order of decisions.  Each
relation holds between exactly the words of a phrase and what the phrase means.

    condition   not … not operand comparison operand
    item        [filter | where] condition
    filter      (filter | where) item …          no other filter clause after it
    table       into [into] table value value …
    group       into [into] summary value value … [calculate]
    summary     into [into] summary value value … calculate value value …
    sort        sort value value …

What a word is for is said by `Word.identify`; the keywords at the start of a
clause are the bare words and nothing else, although a word such as `sort.x` also
ends the list of values before it.
-/
import RecordQuery.Query.Parser
import Mathlib.Data.List.Forall2

namespace RecordQuery

mutual

/-- The names of the functions that an expression calls, at any depth. -/
def Expr.called : Expr → List String
  | .literal _ | .field _ => []
  | .call function args => function :: calledByArgs args

/-- The names of the functions that several expressions call. -/
def calledByArgs : List Expr → List String
  | [] => []
  | e :: es => e.called ++ calledByArgs es

end

namespace Grammar

/-! ## Words -/

/-- The word is a value, and every function called in it is registered. -/
structure ValueWord (fs : Registry) (word : String) (e : Expr) : Prop where
  identified : Word.identify word = .ok (.value e)
  registered : ∀ name ∈ e.called, fs.knows name = true

/-- The word is a field or a literal. -/
inductive OperandWord : String → Expr → Prop
  | field {word key : String} :
      Word.identify word = .ok (.value (.field key)) → OperandWord word (.field key)
  | literal {word text : String} :
      Word.identify word = .ok (.value (.literal text)) → OperandWord word (.literal text)

/-- The word begins a filter clause, or an item of one. -/
def IsFilterWord (word : String) : Prop :=
  word = "filter" ∨ word = "where"

/-- The word begins a clause. -/
def IsClauseWord (word : String) : Prop :=
  IsFilterWord word ∨ word = "into" ∨ word = "sort"

/-! ## Conditions and clauses -/

/-- The words of a condition. -/
inductive ConditionWords : List String → Condition → Prop
  | compare {w₁ w₂ w₃ : String} {lhs rhs : Expr} {op : Comparison} :
      OperandWord w₁ lhs → Word.identify w₂ = .ok (.compare op) → OperandWord w₃ rhs →
      ConditionWords [w₁, w₂, w₃] (.compare op lhs rhs)
  | not {w : String} {ws : List String} {c : Condition} :
      Word.identify w = .ok .not → ConditionWords ws c → ConditionWords (w :: ws) (.not c)

/-- The words of the items of a filter clause, each with or without a word of its
own in front. -/
inductive ItemWords : List String → List Condition → Prop
  | nil : ItemWords [] []
  | plain {ws rest : List String} {c : Condition} {cs : List Condition} :
      ConditionWords ws c → ItemWords rest cs → ItemWords (ws ++ rest) (c :: cs)
  | introduced {w : String} {ws rest : List String} {c : Condition} {cs : List Condition} :
      IsFilterWord w → ConditionWords ws c → ItemWords rest cs →
      ItemWords (w :: (ws ++ rest)) (c :: cs)

/-- The words of a filter clause. -/
inductive FilterClause : List String → Plan → Prop
  | mk {w : String} {ws : List String} {cs : List Condition} :
      IsFilterWord w → ItemWords ws cs →
      FilterClause (w :: ws) (.compound (cs.map Plan.filter))

/-- `into`, once or twice. -/
inductive IntoWords : List String → Prop
  | once : IntoWords ["into"]
  | twice : IntoWords ["into", "into"]

/-- The words of one value or more. -/
structure SomeValueWords (fs : Registry) (ws : List String) (es : List Expr) : Prop where
  each : List.Forall₂ (ValueWord fs) ws es
  nonempty : es ≠ []

/-- The words of a clause that is no filter clause. -/
inductive MakingClause (fs : Registry) : List String → Plan → Prop
  | table {is ws : List String} {es : List Expr} :
      IntoWords is → SomeValueWords fs ws es →
      MakingClause fs (is ++ "table" :: ws) (.table (es.map (Expr.column fs)))
  | group {is ws : List String} {es : List Expr} :
      IntoWords is → SomeValueWords fs ws es →
      MakingClause fs (is ++ "summary" :: ws) (.group (es.map (Expr.column fs)))
  | groupCalculatingNothing {is ws : List String} {es : List Expr} :
      IntoWords is → SomeValueWords fs ws es →
      MakingClause fs (is ++ "summary" :: (ws ++ ["calculate"]))
        (.group (es.map (Expr.column fs)))
  | summary {is ws vs : List String} {es as : List Expr} :
      IntoWords is → SomeValueWords fs ws es → SomeValueWords fs vs as →
      MakingClause fs (is ++ "summary" :: (ws ++ "calculate" :: vs))
        (.compound
          [.group (es.map (Expr.column fs)),
           .table ((es.map (Expr.column fs)).map (fun key => ⟨key.name, .field ("c." ++ key.name)⟩)
             ++ as.map (Expr.column fs))])
  | sort {ws : List String} {es : List Expr} :
      SomeValueWords fs ws es → MakingClause fs ("sort" :: ws) (.sort es)

theorem ConditionWords.three_le {ws : List String} {c : Condition} (h : ConditionWords ws c) :
    3 ≤ ws.length := by
  induction h with
  | compare _ _ _ => exact Nat.le_refl 3
  | not _ _ ih => exact Nat.le_succ_of_le ih

theorem SomeValueWords.one_le {fs : Registry} {ws : List String} {es : List Expr}
    (h : SomeValueWords fs ws es) : 1 ≤ ws.length := by
  rw [h.each.length_eq]
  exact List.length_pos_of_ne_nil h.nonempty

/-! ## Queries -/

/-- The words are at their end, or `into` or `sort` comes next. -/
def AfterFilter (rest : List String) : Prop :=
  ∀ w ∈ rest.head?, w = "into" ∨ w = "sort"

/-- The words of a query, and what its clauses mean, in order. -/
inductive QueryWords (fs : Registry) : List String → List Plan → Prop
  | nil : QueryWords fs [] []
  | filter {ws rest : List String} {p : Plan} {ps : List Plan} :
      FilterClause ws p → AfterFilter rest → QueryWords fs rest ps →
      QueryWords fs (ws ++ rest) (p :: ps)
  | making {ws rest : List String} {p : Plan} {ps : List Plan} :
      MakingClause fs ws p → QueryWords fs rest ps → QueryWords fs (ws ++ rest) (p :: ps)

theorem IntoWords.eq_cons {is : List String} (h : IntoWords is) :
    ∃ more, is = "into" :: more ∧ (more = [] ∨ more = ["into"]) := by
  cases h with
  | once => exact ⟨[], rfl, Or.inl rfl⟩
  | twice => exact ⟨["into"], rfl, Or.inr rfl⟩

theorem MakingClause.eq_cons {fs : Registry} {ws : List String} {p : Plan}
    (h : MakingClause fs ws p) : ∃ w tail, ws = w :: tail ∧ (w = "into" ∨ w = "sort") := by
  cases h with
  | table hi _ | group hi _ | groupCalculatingNothing hi _ | summary hi _ _ =>
      obtain ⟨more, rfl, -⟩ := hi.eq_cons
      exact ⟨"into", _, List.cons_append, Or.inl rfl⟩
  | sort _ => exact ⟨"sort", _, rfl, Or.inr rfl⟩

/-- A query begins with the word of a clause. -/
theorem QueryWords.head {fs : Registry} {ws : List String} {ps : List Plan}
    (h : QueryWords fs ws ps) : ∀ w ∈ ws.head?, IsClauseWord w := by
  cases h with
  | nil => intro w hw; cases hw
  | filter hclause _ _ =>
      obtain ⟨hw', -⟩ := hclause
      intro w hw
      cases hw
      exact Or.inl hw'
  | making hclause _ =>
      obtain ⟨w', tail, rfl, hw'⟩ := hclause.eq_cons
      intro w hw
      cases hw
      exact Or.inr hw'

end Grammar

end RecordQuery
