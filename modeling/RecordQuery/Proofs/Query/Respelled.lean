/-
# Queries in another spelling

A query whose words are respelled, each for itself, is the same query: it is read or refused
as before, its plan has the same steps with the same names of columns, and on every
collection it comes to the same result or stops with the same error.  What may differ is the
spelling of a word or a key that an error quotes.

The parser is followed production by production.  Spellings of one word are both a keyword or
neither is, so every decision falls the same way; what two productions build corresponds, and
the words that they leave over are again respelled one by one (`Parser.Alike`).
-/
import RecordQuery.Proofs.Query.Parse
import RecordQuery.Proofs.Query.Spelling
import RecordQuery.Query

namespace RecordQuery

/-- Conditions that are the same up to the spellings of their keys. -/
abbrev Condition.Respelled : Condition → Condition → Prop :=
  Condition.Corresponds Key.Respelled

/-- Plans with the same steps, up to the spellings of their keys. -/
def Plan.Respelled (p p' : Plan) : Prop :=
  List.Forall₂ (Plan.StepCorresponds Key.Respelled) p.steps p'.steps

namespace Parser

/-- Two productions build what corresponds and leave over the same words, or end in the same
error. -/
def Alike {α : Type} (V : α → α → Prop) :
    Except ParseError (α × List String) → Except ParseError (α × List String) → Prop :=
  Outcome.Alike ParseError.Alike fun found found' =>
    V found.1 found'.1 ∧ List.Forall₂ Word.Respelled found.2 found'.2

variable {ws ws' : List String}

theorem scan_alike : ∀ (n : Nat) {ws ws' : List String}, List.Forall₂ Word.Respelled ws ws' →
    Alike (List.Forall₂ Token.Respelled) (scan n ws) (scan n ws')
  | 0, _, _, h => .ok ⟨.nil, h⟩
  | _ + 1, _, _, .nil => .ok ⟨.nil, .nil⟩
  | n + 1, w :: ws, w' :: ws', .cons hw hws => by
      have halike : Word.TokenAlike (Word.identify w) (Word.identify w') := Word.identify_alike hw
      have hmore : Alike (List.Forall₂ Token.Respelled) (scan n ws) (scan n ws') :=
        scan_alike n hws
      rw [scan, scan]
      generalize Word.identify w = x at halike ⊢
      generalize Word.identify w' = y at halike ⊢
      cases halike with
      | error herr => exact .error herr
      | ok ht =>
          cases ht with
          | terminator word => exact .ok ⟨.nil, .cons hw hws⟩
          | not => exact hmore.map fun _ _ h => ⟨.cons .not h.1, h.2⟩
          | compare op => exact hmore.map fun _ _ h => ⟨.cons (.compare op) h.1, h.2⟩
          | value hx => exact hmore.map fun _ _ h => ⟨.cons (.value hx) h.1, h.2⟩

/-! ## Conditions -/

theorem isOperand_respelled {x x' : Expr} (h : x.Respelled x') : isOperand x = isOperand x' := by
  cases h <;> rfl

theorem comparison?_respelled {ts ts' : List Token} (h : List.Forall₂ Token.Respelled ts ts') :
    Option.Rel Condition.Respelled (comparison? ts) (comparison? ts') := by
  -- Three tokens of the right kinds can make a comparison; other tokens make none on either side.
  rcases h with _ | ⟨_ | _ | _ | hl, h⟩
  case cons.value =>
    rcases h with _ | ⟨_ | _ | op | _, h⟩
    case cons.compare =>
      rcases h with _ | ⟨_ | _ | _ | hr, _ | _⟩
      case cons.value.nil =>
        rw [comparison?, comparison?, isSome_matching, isSome_matching, isOperand_respelled hl,
          isOperand_respelled hr]
        split
        · exact .some (.compare hl hr)
        · exact .none
      all_goals exact .none
    all_goals exact .none
  all_goals exact .none

/-- A comparison is found on both sides or on neither. -/
theorem comparison_alike {words words' rest rest' : List String}
    (hwords : List.Forall₂ Word.Respelled words words')
    (hrest : List.Forall₂ Word.Respelled rest rest') {found found' : Option Condition} :
    Option.Rel Condition.Respelled found found' →
    Alike Condition.Respelled
      (match found with
      | some c => .ok (c, rest)
      | none => .error (.nothingFound words))
      (match found' with
      | some c => .ok (c, rest')
      | none => .error (.nothingFound words')) := by
  intro h
  cases h with
  | some hc => exact .ok ⟨hc, hrest⟩
  | none => exact .error (.nothingFound hwords)

theorem condition_alike (h : List.Forall₂ Word.Respelled ws ws') :
    Alike Condition.Respelled (condition ws) (condition ws') := by
  induction h with
  | nil => exact .error (.nothingFound .nil)
  | @cons w w' ws ws' hw hws ih =>
      have hwords : List.Forall₂ Word.Respelled (w :: ws) (w' :: ws') := .cons hw hws
      have hscan := scan_alike 3 hwords
      rw [condition, condition]
      generalize scan 3 (w :: ws) = x at hscan ⊢
      generalize scan 3 (w' :: ws') = y at hscan ⊢
      cases hscan with
      | error herr => exact .error herr
      | @ok found found' hfound =>
          obtain ⟨ts, rest⟩ := found
          obtain ⟨ts', rest'⟩ := found'
          obtain ⟨hts, hrest⟩ := hfound
          have hcompared := comparison_alike hwords hrest (comparison?_respelled hts)
          cases hts with
          | nil => exact hcompared
          | cons ht _ =>
              cases ht with
              | not => exact ih.map fun _ _ h => ⟨.not h.1, h.2⟩
              | terminator | compare | value => exact hcompared

/-! ## Filters -/

theorem afterFilter_respelled (h : List.Forall₂ Word.Respelled ws ws') :
    Grammar.AfterFilter ws ↔ Grammar.AfterFilter ws' := by
  cases h with
  | nil => exact Iff.rfl
  | @cons w w' _ _ hw _ =>
      have hword : (w = "into" ∨ w = "sort") ↔ (w' = "into" ∨ w' = "sort") :=
        or_congr (hw.eq_iff (by decide)) (hw.eq_iff (by decide))
      constructor
      · intro hafter word hhead
        cases hhead
        exact hword.mp (hafter w rfl)
      · intro hafter word hhead
        cases hhead
        exact hword.mpr (hafter w' rfl)

theorem isFilterWord_respelled {w w' : String} (h : Word.Respelled w w') :
    Grammar.IsFilterWord w ↔ Grammar.IsFilterWord w' :=
  or_congr (h.eq_iff (by decide)) (h.eq_iff (by decide))

theorem skipFilterWord_respelled (h : List.Forall₂ Word.Respelled ws ws') :
    List.Forall₂ Word.Respelled (skipFilterWord ws) (skipFilterWord ws') := by
  cases h with
  | nil => exact .nil
  | @cons w w' ws ws' hw hws =>
      by_cases hfilter : Grammar.IsFilterWord w
      · have hfilter' : Grammar.IsFilterWord w' := (isFilterWord_respelled hw).mp hfilter
        rw [skipFilterWord_of_isFilterWord hfilter, skipFilterWord_of_isFilterWord hfilter']
        exact hws
      · have hfilter' : ¬ Grammar.IsFilterWord w' := mt (isFilterWord_respelled hw).mpr hfilter
        rw [skipFilterWord_of_not hfilter, skipFilterWord_of_not hfilter']
        exact .cons hw hws

theorem conditions_alike (h : List.Forall₂ Word.Respelled ws ws') :
    Alike (List.Forall₂ Condition.Respelled) (conditions ws) (conditions ws') := by
  -- The induction is on the words of the one side; the other is led along by `condition_alike`.
  induction ws using conditions.induct generalizing ws' with
  | case1 ws hend =>
      rw [afterFilter_iff] at hend
      have hend' : Grammar.AfterFilter ws' := (afterFilter_respelled h).mp hend
      rw [conditions, if_pos (afterFilter_iff.mpr hend), conditions,
        if_pos (afterFilter_iff.mpr hend')]
      exact .ok ⟨.nil, h⟩
  | case2 ws hend err hleft =>
      rw [afterFilter_iff] at hend
      have hend' : ¬ Grammar.AfterFilter ws' := mt (afterFilter_respelled h).mpr hend
      have hcondition := condition_alike (skipFilterWord_respelled h)
      rw [hleft] at hcondition
      generalize hright : condition (skipFilterWord ws') = found at hcondition
      cases hcondition with
      | error herr =>
          rw [conditions_error hend hleft, conditions_error hend' hright]
          exact .error herr
  | case3 ws hend c left hleft _ _ ih =>
      rw [afterFilter_iff] at hend
      have hend' : ¬ Grammar.AfterFilter ws' := mt (afterFilter_respelled h).mpr hend
      have hcondition := condition_alike (skipFilterWord_respelled h)
      rw [hleft] at hcondition
      generalize hright : condition (skipFilterWord ws') = found at hcondition
      cases hcondition with
      | ok hfound =>
          obtain ⟨hc, hrest⟩ := hfound
          rw [conditions_eq hend hleft, conditions_eq hend' hright]
          exact (ih hrest).map fun _ _ h => ⟨.cons hc h.1, h.2⟩

theorem filters_alike (h : List.Forall₂ Word.Respelled ws ws') :
    Alike Plan.Respelled (filters ws) (filters ws') := by
  refine (conditions_alike h).map fun found found' hfound => ⟨?_, hfound.2⟩
  rw [Plan.Respelled, Plan.steps_simplify, Plan.steps_simplify, Plan.steps, Plan.steps,
    Plan.stepsOf_filters, Plan.stepsOf_filters]
  exact List.rel_map (fun _ _ => .filter) hfound.1

/-! ## Values -/

theorem unknownCall?_respelled (fs : Registry) {x x' : Expr} (h : x.Respelled x') :
    unknownCall? fs x = unknownCall? fs x' := by
  refine Expr.Corresponds.induct (P := fun x x' => unknownCall? fs x = unknownCall? fs x')
    ?_ ?_ ?_ h
  · exact fun _ => rfl
  · exact fun _ _ _ => rfl
  · intro function args args' hargs
    have hunknown : unknownArg? fs args = unknownArg? fs args' := by
      induction hargs with
      | nil => rfl
      | cons harg _ ih => rw [unknownArg?, unknownArg?, harg, ih]
    rw [unknownCall?, unknownCall?, hunknown]

theorem value_alike (fs : Registry) {t t' : Token} (h : t.Respelled t') :
    Word.ExprAlike (value fs t) (value fs t') := by
  cases h with
  | terminator | not | compare => exact .refl _
  | value hx =>
      rw [value, value, ← unknownCall?_respelled fs hx]
      split
      · exact .error (.refl _)
      · exact .ok hx

theorem values_alike (fs : Registry) (h : List.Forall₂ Word.Respelled ws ws') :
    Alike (List.Forall₂ Expr.Respelled) (values fs ws) (values fs ws') := by
  rw [values, values, scanAll, scanAll, ← h.length_eq]
  refine (scan_alike ws.length h).bind fun found found' hfound => ?_
  refine (Outcome.Alike.mapM hfound.1 fun _ _ => value_alike fs).bind fun es es' hes => ?_
  exact .ok ⟨hes, hfound.2⟩

theorem someValues_alike (fs : Registry) (h : List.Forall₂ Word.Respelled ws ws') :
    Alike (List.Forall₂ Expr.Respelled) (someValues fs ws) (someValues fs ws') := by
  refine (values_alike fs h).bind fun found found' hfound => ?_
  obtain ⟨es, rest⟩ := found
  obtain ⟨es', rest'⟩ := found'
  obtain ⟨hes, hrest⟩ := hfound
  cases hes with
  | nil => exact .error (.nothingFound h)
  | cons hx hes => exact .ok ⟨.cons hx hes, hrest⟩

theorem columns_respelled {fs : Registry} (hfs : fs.IgnoresSpelling) {es es' : List Expr}
    (h : List.Forall₂ Expr.Respelled es es') :
    List.Forall₂ (Column.Corresponds Key.Respelled) (es.map (Expr.column fs))
      (es'.map (Expr.column fs)) :=
  List.rel_map (fun _ _ hx => Expr.column_respelled hfs hx) h

/-! ## Clauses -/

theorem table_alike {fs : Registry} (hfs : fs.IgnoresSpelling) (h : List.Forall₂ Word.Respelled ws ws') :
    Alike Plan.Respelled (table fs ws) (table fs ws') := by
  refine (someValues_alike fs h).bind fun found found' hfound => .ok ⟨?_, hfound.2⟩
  exact .cons (.table (columns_respelled hfs hfound.1)) .nil

theorem sort_alike (fs : Registry) (h : List.Forall₂ Word.Respelled ws ws') :
    Alike Plan.Respelled (sort fs ws) (sort fs ws') := by
  refine (someValues_alike fs h).bind fun found found' hfound => .ok ⟨?_, hfound.2⟩
  exact .cons (.sort hfound.1) .nil

theorem summaryPlan_respelled {keys keys' calculated calculated' : List Column}
    (hkeys : List.Forall₂ (Column.Corresponds Key.Respelled) keys keys')
    (hcalculated : List.Forall₂ (Column.Corresponds Key.Respelled) calculated calculated') :
    (summaryPlan keys calculated).Respelled (summaryPlan keys' calculated') := by
  cases hcalculated with
  | nil => exact .cons (.group hkeys) .nil
  | cons hcolumn hcolumns =>
      have hpassed : List.Forall₂ (Column.Corresponds Key.Respelled) (keys.map passedOn)
          (keys'.map passedOn) := by
        refine List.rel_map (fun key key' hkey => ?_) hkeys
        rw [passedOn, passedOn, hkey.name_eq]
        exact ⟨rfl, .field (.refl _)⟩
      exact .cons (.group hkeys)
        (.cons (.table (List.rel_append hpassed (.cons hcolumn hcolumns))) .nil)

/-- A keyword comes first on both sides, or on neither. -/
theorem keyword_cases (h : List.Forall₂ Word.Respelled ws ws') (keyword : String)
    (hkeyword : '.' ∉ keyword.toList) :
    (∃ us us', ws = keyword :: us ∧ ws' = keyword :: us' ∧ List.Forall₂ Word.Respelled us us')
      ∨ (∀ us, ws = keyword :: us → False) ∧ ∀ us', ws' = keyword :: us' → False := by
  cases h with
  | nil => exact Or.inr ⟨nofun, nofun⟩
  | @cons w w' us us' hw hus =>
      by_cases hfirst : w = keyword
      · have hfirst' : w' = keyword := (hw.eq_iff hkeyword).mp hfirst
        exact Or.inl ⟨us, us', by rw [hfirst], by rw [hfirst'], hus⟩
      · have hfirst' : w' ≠ keyword := mt (hw.eq_iff hkeyword).mpr hfirst
        exact Or.inr ⟨fun _ heq => hfirst (List.cons.inj heq).1,
          fun _ heq => hfirst' (List.cons.inj heq).1⟩

theorem summary_alike {fs : Registry} (hfs : fs.IgnoresSpelling) (h : List.Forall₂ Word.Respelled ws ws') :
    Alike Plan.Respelled (summary fs ws) (summary fs ws') := by
  refine (someValues_alike fs h).bind fun found found' hfound => ?_
  obtain ⟨es, rest⟩ := found
  obtain ⟨es', rest'⟩ := found'
  obtain ⟨hes, hrest⟩ := hfound
  have hkeys := columns_respelled hfs hes
  dsimp only
  rcases keyword_cases hrest "calculate" (by decide) with
    ⟨us, us', rfl, rfl, hus⟩ | ⟨hnone, hnone'⟩
  · refine (values_alike fs hus).bind fun found found' hfound => .ok ⟨?_, hfound.2⟩
    exact summaryPlan_respelled hkeys (columns_respelled hfs hfound.1)
  · split
    · exact absurd rfl (hnone _)
    · exact .ok ⟨.cons (.group hkeys) .nil, hrest⟩

theorem skipInto_respelled (h : List.Forall₂ Word.Respelled ws ws') :
    List.Forall₂ Word.Respelled (skipInto ws) (skipInto ws') := by
  rcases keyword_cases h "into" (by decide) with
    ⟨us, us', rfl, rfl, hus⟩ | ⟨hnone, hnone'⟩
  · exact hus
  · rw [skipInto.eq_2 ws hnone, skipInto.eq_2 ws' hnone']
    exact h

theorem into_unknown {fs : Registry} {words rest : List String} {w : String}
    (h : skipInto words = w :: rest) (htable : w ≠ "table") (hsummary : w ≠ "summary") :
    into fs words = .error (.unknownIntoTarget w) := by
  rw [into, h]
  split
  · rename_i heq
    exact absurd (List.cons.inj heq).1 htable
  · rename_i heq
    exact absurd (List.cons.inj heq).1 hsummary
  · rename_i heq
    rw [(List.cons.inj heq).1]
  · rename_i heq
    cases heq

theorem into_alike {fs : Registry} (hfs : fs.IgnoresSpelling) (h : List.Forall₂ Word.Respelled ws ws') :
    Alike Plan.Respelled (into fs ws) (into fs ws') := by
  have hskip := skipInto_respelled h
  rcases keyword_cases hskip "table" (by decide) with
    ⟨us, us', hus, hus', hrest⟩ | ⟨htable, htable'⟩
  · rw [into, into, hus, hus']
    exact table_alike hfs hrest
  rcases keyword_cases hskip "summary" (by decide) with
    ⟨us, us', hus, hus', hrest⟩ | ⟨hsummary, hsummary'⟩
  · rw [into, into, hus, hus']
    exact summary_alike hfs hrest
  generalize hleft : skipInto ws = us at hskip htable hsummary
  generalize hright : skipInto ws' = us' at hskip htable' hsummary'
  cases hskip with
  | nil =>
      rw [into, into, hleft, hright]
      exact .error (.refl _)
  | cons hw _ =>
      rw [into_unknown hleft (fun hword => htable _ (by rw [hword]))
          (fun hword => hsummary _ (by rw [hword])),
        into_unknown hright (fun hword => htable' _ (by rw [hword]))
          (fun hword => hsummary' _ (by rw [hword]))]
      exact .error (.unknownIntoTarget hw)

theorem clause_alike {fs : Registry} (hfs : fs.IgnoresSpelling) {w w' : String} (hw : Word.Respelled w w')
    (h : List.Forall₂ Word.Respelled ws ws') :
    Alike Plan.Respelled (clause fs w ws) (clause fs w' ws') := by
  have hfilter : (w = "filter" ∨ w = "where") ↔ (w' = "filter" ∨ w' = "where") :=
    isFilterWord_respelled hw
  have hinto : w = "into" ↔ w' = "into" := hw.eq_iff (by decide)
  have hsort : w = "sort" ↔ w' = "sort" := hw.eq_iff (by decide)
  rw [clause, clause]
  simp only [hfilter, hinto, hsort]
  split
  · exact filters_alike h
  · split
    · exact into_alike hfs h
    · split
      · exact sort_alike fs h
      · exact .error (.unknownExpression hw)

/-! ## Queries -/

/-- The run of clauses: as long as each leaves fewer words, the two go on together. -/
theorem clauses_alike {fs : Registry} (hfs : fs.IgnoresSpelling) : ∀ {ws ws' : List String},
    List.Forall₂ Word.Respelled ws ws' →
      Outcome.Alike ParseError.Alike (List.Forall₂ Plan.Respelled) (clauses fs ws) (clauses fs ws')
  | _, _, .nil => by
      rw [clauses]
      exact .ok .nil
  | w :: ws, w' :: ws', .cons hw hws => by
      have hclause : Alike Plan.Respelled (clause fs w ws) (clause fs w' ws') :=
        clause_alike hfs hw hws
      rw [clauses, clauses]
      generalize clause fs w ws = x at hclause ⊢
      generalize clause fs w' ws' = y at hclause ⊢
      cases hclause with
      | error herr => exact .error herr
      | @ok found found' hfound =>
          obtain ⟨hp, hrest⟩ := hfound
          have hlength : found.2.length = found'.2.length := hrest.length_eq
          dsimp only
          rw [← hlength, ← hws.length_eq]
          split
          · exact (clauses_alike hfs hrest).map fun _ _ => .cons hp
          · exact .error (.noProgress hrest)
termination_by ws => ws.length

end Parser

theorem Plan.compound_respelled {ps ps' : List Plan} (h : List.Forall₂ Plan.Respelled ps ps') :
    (Plan.compound ps).simplify.Respelled (Plan.compound ps').simplify := by
  rw [Plan.Respelled, Plan.steps_simplify, Plan.steps_simplify, Plan.steps, Plan.steps]
  induction h with
  | nil => exact .nil
  | cons hp _ ih => exact List.rel_append hp ih

theorem parse_alike {fs : Registry} (hfs : fs.IgnoresSpelling) {ws ws' : List String}
    (h : List.Forall₂ Word.Respelled ws ws') :
    Outcome.Alike ParseError.Alike Plan.Respelled (Plan.parse fs ws) (Plan.parse fs ws') :=
  (Parser.clauses_alike hfs h).map fun _ _ => Plan.compound_respelled

/-! ## Runs -/

/-- Plans in two spellings have the same result, or stop with the same error. -/
theorem Plan.Respelled.run_alike {p p' : Plan} (h : p.Respelled p') {fs : Registry}
    (hfs : fs.IgnoresSpelling) (c : Collection) :
    Outcome.Alike EvalError.Alike Eq (p.run fs c) (p'.run fs c) := by
  have hself : c.Corresponds Eq c := Collection.corresponds_self (fun _ => rfl) c
  rw [← runAll_steps, ← runAll_steps]
  exact (runAll_alike answerAlike_respelled hfs.runsAlike (fun _ => rfl) h hself).mono
    fun _ _ => Collection.Corresponds.eq

/-- The names of the columns that the steps of a plan make, step by step. -/
def Plan.columnNames (p : Plan) : List (List String) :=
  p.steps.map fun
    | .table columns | .group columns => columns.map Column.name
    | _ => []

theorem Plan.Respelled.columnNames_eq {p p' : Plan} (h : p.Respelled p') :
    p.columnNames = p'.columnNames := by
  rw [Plan.columnNames, Plan.columnNames, ← List.forall₂_eq_eq_eq]
  refine List.rel_map (fun step step' hstep => ?_) h
  cases hstep with
  | filter | sort => rfl
  | table hcolumns | group hcolumns => exact Column.names_eq hcolumns

/-- The same failure, up to the spelling of what its message quotes. -/
inductive QueryError.Alike : QueryError → QueryError → Prop
  | parse {err err' : ParseError} : err.Alike err' → QueryError.Alike (.parse err) (.parse err')
  | eval {err err' : EvalError} : err.Alike err' → QueryError.Alike (.eval err) (.eval err')

/-- Words in another spelling are read as plans with the same steps and the same names of
columns, or are refused for the same reason; as a query they give the same collection, or fail
with the same error. -/
theorem query_respelled {ws ws' : List String} (h : List.Forall₂ Word.Respelled ws ws') :
    (∀ bs : List Builtin, Outcome.Alike ParseError.Alike
      (fun p p' => p.Respelled p' ∧ p.columnNames = p'.columnNames
        ∧ ∀ c, Outcome.Alike EvalError.Alike Eq (p.run (.ofBuiltins bs) c)
          (p'.run (.ofBuiltins bs) c))
      (Plan.parse (.ofBuiltins bs) ws) (Plan.parse (.ofBuiltins bs) ws'))
    ∧ ∀ c : Collection, Outcome.Alike QueryError.Alike Eq (query ws c) (query ws' c) := by
  have hblind := Registry.ignoresSpelling_ofBuiltins
  refine ⟨fun bs => (parse_alike (hblind bs) h).mono fun _ _ hp =>
    ⟨hp, hp.columnNames_eq, fun c => hp.run_alike (hblind bs) c⟩, fun c => ?_⟩
  have hparse := parse_alike (hblind Builtin.all) h
  rw [query, query]
  change Outcome.Alike ParseError.Alike Plan.Respelled (Plan.parse Registry.full ws)
    (Plan.parse Registry.full ws') at hparse
  generalize Plan.parse Registry.full ws = x at hparse ⊢
  generalize Plan.parse Registry.full ws' = y at hparse ⊢
  cases hparse with
  | error herr => exact .error (.parse herr)
  | @ok p p' hp =>
      have hrun : Outcome.Alike EvalError.Alike Eq (p.run Registry.full c)
        (p'.run Registry.full c) := hp.run_alike (hblind Builtin.all) c
      dsimp only
      generalize p.run Registry.full c = result at hrun ⊢
      generalize p'.run Registry.full c = result' at hrun ⊢
      cases hrun with
      | error herr => exact .error (.eval herr)
      | ok heq => exact .ok heq

/-- A summary with a call and a size to calculate. -/
def summaryWords : List String :=
  ["into", "summary", "h.b", "calculate", "f.sum[h.n]", "sz.a"]

/-- The same with other spellings, also of the argument of the call. -/
def summaryWordsRespelled : List String :=
  ["into", "summary", "property.b", "calculate", "func.sum[column.n]", "sized.a"]

/-- Two rows with the same text in the column that they are grouped by. -/
def rowsToSum : List Row :=
  let headers : Headers := ⟨["a", "b", "n"]⟩
  [⟨headers, [.text "x", .text "u", .text "1"]⟩, ⟨headers, [.text "y", .text "u", .text "2"]⟩]

theorem forall₂_summaryWords :
    List.Forall₂ Word.Respelled summaryWords summaryWordsRespelled := by
  have hb : Word.Respelled ("h" ++ "." ++ "b") ("property" ++ "." ++ "b") :=
    .bare (.key (.scheme (Or.inl ⟨by decide, by decide⟩) (by decide)))
  have hn : Word.BareRespelled ("h" ++ "." ++ "n") ("column" ++ "." ++ "n") :=
    .key (.scheme (Or.inl ⟨by decide, by decide⟩) (by decide))
  have hsum : Word.Respelled (Word.ofCall "f" "sum" ["h.n"]) (Word.ofCall "func" "sum" ["column.n"]) :=
    .call (by decide) (by decide)
      ⟨by decide, by decide, by decide, by decide, by decide⟩ (.cons hn .nil)
  have ha : Word.Respelled ("sz" ++ "." ++ "a") ("sized" ++ "." ++ "a") :=
    .bare (.key (.scheme (Or.inr ⟨by decide, by decide⟩) (by decide)))
  exact .cons (.refl _) (.cons (.refl _) (.cons hb (.cons (.refl _) (.cons hsum (.cons ha .nil)))))

theorem query_summaryWords :
    query summaryWords (.rows rowsToSum)
      = .ok (.rows [⟨⟨["b", "sum-n", "a"]⟩, [.text "u", .integer 3, .integer 2]⟩]) := by
  have hkeys : Grammar.SomeValueWords Registry.full ["h.b"] [.field "h.b"] :=
    Word.someValueWords_header Registry.full "b"
  have hcalculated : Grammar.SomeValueWords Registry.full ["f.sum[h.n]", "sz.a"]
      [.call "sum" [.field "h.n"], .field "sz.a"] :=
    ⟨.cons ⟨rfl, by decide⟩ (.cons ⟨rfl, by decide⟩ .nil), by decide⟩
  have hparse : Plan.parse Registry.full summaryWords = .ok _ :=
    Parser.parse_calculate hkeys hcalculated
  rw [query_eq_of_parse hparse]
  rfl

theorem query_respelled_summary :
    List.Forall₂ Word.Respelled summaryWords summaryWordsRespelled
      ∧ query summaryWordsRespelled (.rows rowsToSum)
        = .ok (.rows [⟨⟨["b", "sum-n", "a"]⟩, [.text "u", .integer 3, .integer 2]⟩]) := by
  refine ⟨forall₂_summaryWords, ?_⟩
  have halike := (query_respelled forall₂_summaryWords).2 (.rows rowsToSum)
  rw [query_summaryWords] at halike
  generalize query summaryWordsRespelled (.rows rowsToSum) = result at halike ⊢
  cases halike with
  | ok heq => rw [heq]

end RecordQuery
