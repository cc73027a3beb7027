/-
# One query behind another

When two queries can be read, and their words put together as well, the plan of the whole
is that of the two halves in order, and running it is running the one half and then the
other.

The parser hands on the words that it left over, so the seam is where something could go
wrong.  By the last clause of the first half:

    into, sort   ends at the word that begins the second half
    filter       ends there too, when the second half goes on with `into` or `sort`
    filter       does not end before another filter clause: the items of both
                 are read as those of one clause

In the last case the clauses of the whole are not those of the halves, only their steps
are.  It is also the only case in which the whole may be no query, for `filter` and
`where` inside a clause must introduce a condition, and at its beginning need not.
-/
import RecordQuery.Proofs.Query.Parse
import RecordQuery.Query

namespace RecordQuery

open Grammar

namespace Parser

variable {fs : Registry}

/-! ## Two filter clauses in a row -/

theorem ItemWords.append {ws vs : List String} {cs ds : List Condition} (h : ItemWords ws cs)
    (h' : ItemWords vs ds) : ItemWords (ws ++ vs) (cs ++ ds) := by
  induction h with
  | nil => exact h'
  | plain hus _ ih =>
      rw [List.append_assoc]
      exact .plain hus ih
  | introduced hw hus _ ih =>
      rw [List.cons_append, List.append_assoc]
      exact .introduced hw hus ih

/-- The word of a filter clause that is read inside another one introduces its first item:
what comes next is a condition, and no word of a clause begins one. -/
theorem itemWords_of_conditions {w : String} {items rest : List String} {cs : List Condition}
    {found : List Condition × List String} (hw : IsFilterWord w) (hitems : ItemWords items cs)
    (hrest : AfterFilter rest) (h : conditions (w :: (items ++ rest)) = .ok found) :
    ItemWords (w :: items) cs := by
  rw [conditions, if_neg (fun hall => not_afterFilter_cons hw _ (afterFilter_iff.mp hall))] at h
  split at h
  · cases h
  · rename_i c left hcondition
    rw [skipFilterWord_of_isFilterWord hw] at hcondition
    obtain ⟨us, happ, hus⟩ := condition_sound hcondition
    obtain ⟨w₁, w₂, us', t₁, t₂, rfl, hfirst, -⟩ := ConditionWords.lookahead hus
    have hclause : ¬ IsClauseWord w₁ := TokenWord.not_isClauseWord hfirst
    cases hitems with
    | nil =>
        rw [List.nil_append] at happ
        rw [happ] at hrest
        exact absurd (Or.inr (hrest w₁ rfl)) hclause
    | plain hws hmore => exact .introduced hw hws hmore
    | introduced hw' _ _ =>
        rw [List.cons_append, List.cons_append, List.cons.injEq] at happ
        rw [← happ.1] at hclause
        exact absurd (Or.inl hw') hclause

theorem conditions_of_clauses {w : String} {words : List String} {rs : List Plan}
    (hw : IsFilterWord w) (h : clauses fs (w :: words) = .ok rs) :
    ∃ found, conditions words = .ok found := by
  obtain ⟨found, hfound⟩ := clause_of_clauses h
  have hclause : clause fs w words = filters words := if_pos hw
  rw [hclause] at hfound
  obtain ⟨found', hfound', -⟩ := Outcome.map_eq_ok_iff.mp hfound
  exact ⟨found', hfound'⟩

/-- A filter clause in front of a query: it is a clause of its own, or the clause that the
query begins with goes into it. -/
theorem filterClause_append {ws words : List String} {p : Plan} {qs rs : List Plan}
    (h : FilterClause ws p) (hwords : QueryWords fs words qs)
    (hread : clauses fs (ws ++ words) = .ok rs) :
    ∃ ts, QueryWords fs (ws ++ words) ts ∧ Plan.stepsOf ts = p.steps ++ Plan.stepsOf qs := by
  by_cases hafter : AfterFilter words
  · exact ⟨p :: qs, .filter h hafter hwords, rfl⟩
  · cases hwords with
    | nil => exact absurd (fun w hw => nomatch hw) hafter
    | making hclause _ =>
        obtain ⟨w, tail, rfl, hw⟩ := hclause.eq_cons
        refine absurd (fun w' hw' => ?_) hafter
        cases hw'
        exact hw
    | @filter _ rest _ qs hclause hrest hmore =>
        obtain ⟨hw, hitems⟩ := h
        obtain ⟨hw', hitems'⟩ := hclause
        rename_i w items cs w' items' cs'
        rw [List.cons_append] at hread
        obtain ⟨found, hfound⟩ := conditions_of_clauses hw hread
        rw [conditions_append hitems, List.cons_append] at hfound
        obtain ⟨found', hfound', -⟩ := Outcome.map_eq_ok_iff.mp hfound
        have hboth : ItemWords (items ++ w' :: items') (cs ++ cs') :=
          ItemWords.append hitems (itemWords_of_conditions hw' hitems' hrest hfound')
        have happ : w :: items ++ (w' :: items' ++ rest) = w :: (items ++ w' :: items') ++ rest := by
          simp
        rw [happ]
        refine ⟨_, .filter (.mk hw hboth) hrest hmore, ?_⟩
        rw [Plan.stepsOf, Plan.stepsOf, Plan.steps, Plan.steps, Plan.steps, List.map_append,
          Plan.stepsOf_append, List.append_assoc]

/-! ## Two queries in a row -/

theorem atClause_append {words words' : List String} {ps qs : List Plan}
    (h : QueryWords fs words ps) (h' : QueryWords fs words' qs) : AtClause (words ++ words') := by
  cases words with
  | nil => exact h'.head
  | cons w words => exact h.head

/-- The words of two queries, when they can be read as one, are a query with the steps of
the first and then those of the second. -/
theorem queryWords_append {words words' : List String} {ps qs : List Plan}
    (h : QueryWords fs words ps) (h' : QueryWords fs words' qs)
    (hread : ∃ rs, clauses fs (words ++ words') = .ok rs) :
    ∃ ts, QueryWords fs (words ++ words') ts
      ∧ Plan.stepsOf ts = Plan.stepsOf ps ++ Plan.stepsOf qs := by
  induction h with
  | nil => exact ⟨qs, h', rfl⟩
  | @filter ws rest p ps hclause hafter hrest ih =>
      obtain ⟨rs, hrs⟩ := hread
      rw [List.append_assoc] at hrs ⊢
      have hmore : ∃ rs', clauses fs (rest ++ words') = .ok rs' := by
        cases rest with
        | nil => exact ⟨_, clauses_complete h'⟩
        | cons w rest =>
            have hnext : AfterFilter (w :: rest ++ words') := hafter
            obtain ⟨w', tail, rfl, hread⟩ := filterClause_complete fs hclause hnext
            rw [List.cons_append, clauses_cons hread] at hrs
            obtain ⟨rs', hrs', -⟩ := Outcome.map_eq_ok_iff.mp hrs
            exact ⟨rs', hrs'⟩
      obtain ⟨ts, hts, hsteps⟩ := ih hmore
      obtain ⟨ts', hts', hsteps'⟩ := filterClause_append hclause hts hrs
      refine ⟨ts', hts', ?_⟩
      rw [hsteps', hsteps, Plan.stepsOf, List.append_assoc]
  | @making ws rest p ps hclause hrest ih =>
      obtain ⟨rs, hrs⟩ := hread
      rw [List.append_assoc] at hrs ⊢
      obtain ⟨w, tail, rfl, hread⟩ := makingClause_complete hclause (atClause_append hrest h')
      rw [List.cons_append, clauses_cons hread] at hrs
      obtain ⟨rs', hrs', -⟩ := Outcome.map_eq_ok_iff.mp hrs
      obtain ⟨ts, hts, hsteps⟩ := ih ⟨rs', hrs'⟩
      refine ⟨p :: ts, .making hclause hts, ?_⟩
      rw [Plan.stepsOf, Plan.stepsOf, hsteps, List.append_assoc]

/-! ## Their plans -/

theorem simplify_of_parse {words : List String} {p : Plan} (h : Plan.parse fs words = .ok p) :
    p.simplify = p := by
  obtain ⟨ps, -, rfl⟩ := Outcome.map_eq_ok_iff.mp h
  exact Plan.simplify_eq_of_steps_eq (Plan.steps_simplify _)

theorem steps_of_parse {words : List String} {ps : List Plan} {p : Plan}
    (h : QueryWords fs words ps) (hp : Plan.parse fs words = .ok p) :
    p.steps = Plan.stepsOf ps := by
  rw [parse_of_queryWords h] at hp
  cases hp
  rw [Plan.steps_simplify, Plan.steps, Plan.stepsOf_map_simplify]

/-- The plan of two queries in a row has the steps of both plans, in order. -/
theorem steps_of_parse_append {words words' : List String} {p q r : Plan}
    (hp : Plan.parse fs words = .ok p) (hq : Plan.parse fs words' = .ok q)
    (hr : Plan.parse fs (words ++ words') = .ok r) : r.steps = p.steps ++ q.steps := by
  obtain ⟨ps', hps', -⟩ := Outcome.map_eq_ok_iff.mp hp
  obtain ⟨qs', hqs', -⟩ := Outcome.map_eq_ok_iff.mp hq
  obtain ⟨rs, hrs, -⟩ := Outcome.map_eq_ok_iff.mp hr
  obtain ⟨ps, hps, -⟩ := clauses_sound hps'
  obtain ⟨qs, hqs, -⟩ := clauses_sound hqs'
  obtain ⟨ts, hts, hsteps⟩ := queryWords_append hps hqs ⟨rs, hrs⟩
  rw [steps_of_parse hts hr, steps_of_parse hps hp, steps_of_parse hqs hq, hsteps]

end Parser

theorem runAll_steps_append {fs : Registry} {p q r : Plan} (h : r.steps = p.steps ++ q.steps)
    (c : Collection) : r.run fs c = (p.run fs c).bind (q.run fs) := by
  have hq : runAll fs q.steps = q.run fs := funext fun c => runAll_steps fs q c
  rw [← runAll_steps, h, runAll_append, runAll_steps, hq]

/-- Two queries whose words are also a query when put together: the plan of the whole is
the simplified compound of the two, and a run of the whole is a run of the first and then
one of the second on its result, with the same collection or the same error. -/
theorem query_append {fs : Registry} {a b : List String} {p q r : Plan}
    (ha : Plan.parse fs a = .ok p) (hb : Plan.parse fs b = .ok q)
    (hab : Plan.parse fs (a ++ b) = .ok r) :
    r = (Plan.compound [p, q]).simplify
      ∧ (∀ c : Collection, r.run fs c = (p.run fs c).bind (q.run fs))
      ∧ (fs = Registry.full → ∀ c : Collection, query (a ++ b) c = (query a c).bind (query b)) := by
  have hsteps : r.steps = p.steps ++ q.steps := Parser.steps_of_parse_append ha hb hab
  refine ⟨?_, runAll_steps_append hsteps, ?_⟩
  · have hcompound : (Plan.compound [p, q]).steps = r.steps := by
      rw [hsteps, Plan.steps, Plan.stepsOf, Plan.stepsOf, Plan.stepsOf, List.append_nil]
    rw [Plan.simplify_eq_of_steps_eq hcompound, Parser.simplify_of_parse hab]
  · rintro rfl c
    rw [query_eq_of_parse hab, query_eq_of_parse ha, runAll_steps_append hsteps]
    cases p.run Registry.full c with
    | error err => rfl
    | ok c' => exact (query_eq_of_parse hb c').symm

/-- A condition on the cells under `n` and one on those under `m`. -/
def seamConditions : Condition × Condition :=
  (.compare .equals (.field "h.n") (.literal "1"), .compare .contains (.field "h.m") (.literal "x"))

/-- A filter clause behind a filter clause: one clause of two items when read as one. -/
theorem query_append_filters :
    Plan.parse Registry.full ["filter", "h.n", "eq", ".1"] = .ok (.filter seamConditions.1)
      ∧ Plan.parse Registry.full ["where", "h.m", "contains", ".x", "sort", "h.m"]
        = .ok (.compound [.filter seamConditions.2, .sort [.field "h.m"]])
      ∧ Plan.parse Registry.full
          ["filter", "h.n", "eq", ".1", "where", "h.m", "contains", ".x", "sort", "h.m"]
        = .ok (.compound
            [.filter seamConditions.1, .filter seamConditions.2, .sort [.field "h.m"]])
      ∧ ∀ c : Collection,
        query ["filter", "h.n", "eq", ".1", "where", "h.m", "contains", ".x", "sort", "h.m"] c
          = (query ["filter", "h.n", "eq", ".1"] c).bind
              (query ["where", "h.m", "contains", ".x", "sort", "h.m"]) := by
  have hone : ConditionWords ["h.n", "eq", ".1"] seamConditions.1 :=
    .compare (.field rfl) rfl (.literal rfl)
  have htwo : ConditionWords ["h.m", "contains", ".x"] seamConditions.2 :=
    .compare (.field rfl) rfl (.literal rfl)
  have hvalue : ValueWord Registry.full "h.m" (.field "h.m") :=
    ⟨rfl, fun _ h => absurd h List.not_mem_nil⟩
  have hsort : QueryWords Registry.full ["sort", "h.m"] [.sort [.field "h.m"]] :=
    .making (.sort ⟨.cons hvalue .nil, List.cons_ne_nil _ _⟩) .nil
  have hafter : AfterFilter ["sort", "h.m"] := fun w hw => by cases hw; exact Or.inr rfl
  have hend : AfterFilter [] := fun w hw => by cases hw
  have ha := @Parser.parse_of_queryWords Registry.full _ _
    (.filter (.mk (Or.inl rfl) (.plain hone .nil)) hend .nil)
  have hb := Parser.parse_of_queryWords
    (.filter (.mk (Or.inr rfl) (.plain htwo .nil)) hafter hsort)
  have hab := Parser.parse_of_queryWords
    (.filter (.mk (Or.inl rfl) (.plain hone (.introduced (Or.inr rfl) htwo .nil))) hafter hsort)
  exact ⟨ha, hb, hab, (query_append ha hb hab).2.2 rfl⟩

end RecordQuery
