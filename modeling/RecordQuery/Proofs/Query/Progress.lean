/-
# Every production makes progress

A production takes words off the front and leaves the others as they are, so what is left
is the end of what there was (`TakesOff`).  How many words it takes at least:

    condition               3   two operands with a comparison between them, behind any `not`
    filters                 0   none only at the end of the words, at `into` and at `sort`
    into                    2   what to make, and a value
    table, summary, sort    1   a value

The two loops of the parser hand what is left after one turn to the next turn.  No run of
turns is longer than the words allow (`Turns.takesOff`), and there is one that cannot go on:
either everything is read, or the turn that comes next fails (`conditions_run`,
`clauses_run`).  A clause that takes no words would be an error of its own, which neither a
word nor a production gives (`Advances`), and which no query has.
-/
import RecordQuery.Proofs.Query.Parse

namespace RecordQuery

open Grammar

namespace Parser

variable {fs : Registry} {words rest left : List String}

/-! ## Words that are taken off -/

/-- What is left is the end of the words, and `n` words or more are gone. -/
structure TakesOff (n : Nat) (words rest : List String) : Prop where
  suffix : rest <:+ words
  length_le : rest.length + n ≤ words.length

namespace TakesOff

variable {m n : Nat}

theorem of_append {ws : List String} (h : n ≤ ws.length) (rest : List String) :
    TakesOff n (ws ++ rest) rest where
  suffix := List.suffix_append ws rest
  length_le := by
    rw [List.length_append]
    omega

theorem refl (words : List String) : TakesOff 0 words words :=
  @of_append 0 [] (Nat.le_refl 0) words

theorem trans (hm : TakesOff m words left) (hn : TakesOff n left rest) :
    TakesOff (m + n) words rest where
  suffix := hn.suffix.trans hm.suffix
  length_le := by
    have hleft := hm.length_le
    have hrest := hn.length_le
    omega

theorem cons (h : TakesOff n words rest) (w : String) : TakesOff (n + 1) (w :: words) rest where
  suffix := h.suffix.trans (List.suffix_cons w words)
  length_le := by
    have hlength := h.length_le
    rw [List.length_cons]
    omega

theorem mono (h : TakesOff n words rest) (hmn : m ≤ n) : TakesOff m words rest where
  suffix := h.suffix
  length_le := Nat.le_trans (Nat.add_le_add_left hmn _) h.length_le

end TakesOff

/-- Where the production succeeds, it has taken `n` words or more. -/
def Takes {α : Type} (n : Nat) (p : Production α) : Prop :=
  ∀ (words : List String) (a : α) (rest : List String),
    p words = .ok (a, rest) → TakesOff n words rest

/-! ## What each production takes -/

theorem takes_condition : Takes 3 condition := by
  intro words c rest h
  obtain ⟨ws, rfl, hws⟩ := condition_sound h
  exact .of_append hws.three_le rest

theorem takesOff_skipFilterWord (words : List String) :
    TakesOff 0 words (skipFilterWord words) := by
  cases words with
  | nil => exact .refl []
  | cons w words =>
      by_cases hw : IsFilterWord w
      · rw [skipFilterWord_of_isFilterWord hw]
        exact ((TakesOff.refl words).cons w).mono (Nat.zero_le 1)
      · rw [skipFilterWord_of_not hw]
        exact .refl (w :: words)

/-- The items of a filter clause go up to a word that ends it. -/
theorem filters_eq_ok {p : Plan} (h : filters words = .ok (p, rest)) :
    TakesOff 0 words rest ∧ AfterFilter rest := by
  obtain ⟨⟨cs, rest'⟩, hconditions, h⟩ := Outcome.map_eq_ok_iff.mp h
  cases h
  obtain ⟨ws, rfl, -, hafter⟩ := conditions_sound hconditions
  exact ⟨.of_append (Nat.zero_le _) rest, hafter⟩

/-- Where the clause ends at once, no word is taken. -/
theorem filters_of_afterFilter (h : AfterFilter words) :
    ∃ p : Plan, filters words = .ok (p, words) := by
  have hnone : conditions words = .ok ([], words) := conditions_complete .nil h
  refine ⟨.compound [], ?_⟩
  rw [filters, hnone]
  rfl

theorem takes_filters : Takes 0 filters :=
  fun _ _ _ h => (filters_eq_ok h).1

theorem takes_values : Takes 0 (values fs) := by
  intro words es rest h
  obtain ⟨ws, rfl, -, -⟩ := values_eq_ok_iff.mp h
  exact .of_append (Nat.zero_le _) rest

theorem takes_someValues : Takes 1 (someValues fs) := by
  intro words es rest h
  obtain ⟨ws, rfl, hws, -⟩ := someValues_eq_ok_iff.mp h
  exact .of_append hws.one_le rest

theorem takes_table : Takes 1 (table fs) := by
  intro words p rest h
  obtain ⟨⟨es, left⟩, hvalues, h⟩ := Outcome.bind_eq_ok_iff.mp h
  cases h
  exact takes_someValues words es rest hvalues

theorem takes_summary : Takes 1 (summary fs) := by
  intro words p rest h
  obtain ⟨⟨es, left⟩, hvalues, h⟩ := Outcome.bind_eq_ok_iff.mp h
  have hkeys : TakesOff 1 words left := takes_someValues words es left hvalues
  dsimp only at h
  split at h
  · rename_i words'
    obtain ⟨⟨calculated, left'⟩, hcalculated, h⟩ := Outcome.bind_eq_ok_iff.mp h
    cases h
    have hrest : TakesOff 1 ("calculate" :: words') left' :=
      (takes_values words' calculated left' hcalculated).cons "calculate"
    exact (hkeys.trans hrest).mono (Nat.le_succ 1)
  · cases h
    exact hkeys

theorem takesOff_skipInto (words : List String) : TakesOff 0 words (skipInto words) := by
  unfold skipInto
  split
  · exact ((TakesOff.refl _).cons "into").mono (Nat.zero_le 1)
  · exact .refl words

theorem takes_into : Takes 2 (into fs) := by
  intro words p rest h
  have hskip : TakesOff 0 words (skipInto words) := takesOff_skipInto words
  unfold into at h
  split at h
  · rename_i left hleft
    rw [hleft] at hskip
    exact (hskip.trans ((takes_table left p rest h).cons "table")).mono (Nat.le_refl 2)
  · rename_i left hleft
    rw [hleft] at hskip
    exact (hskip.trans ((takes_summary left p rest h).cons "summary")).mono (Nat.le_refl 2)
  · cases h
  · cases h

theorem takes_sort : Takes 1 (sort fs) := by
  intro words p rest h
  obtain ⟨⟨es, left⟩, hvalues, h⟩ := Outcome.bind_eq_ok_iff.mp h
  cases h
  exact takes_someValues words es rest hvalues

/-- The keyword of a clause is taken, whatever the clause takes behind it. -/
theorem takes_clause (w : String) : Takes 0 (clause fs w) := by
  intro words p rest h
  unfold clause at h
  split at h
  · exact takes_filters words p rest h
  · split at h
    · exact (takes_into words p rest h).mono (Nat.zero_le 2)
    · split at h
      · exact (takes_sort words p rest h).mono (Nat.zero_le 1)
      · cases h

/-! ## Runs of the two loops -/

/-- A turn of the loop over the items of a filter clause: one more condition. -/
inductive ItemTurn : List String → List String → Prop
  | mk {words rest : List String} {c : Condition} :
      ¬ AfterFilter words → condition (skipFilterWord words) = .ok (c, rest) →
      ItemTurn words rest

/-- A turn of the loop over the clauses of a query: one more clause. -/
inductive ClauseTurn (fs : Registry) : List String → List String → Prop
  | mk {w : String} {words rest : List String} {p : Plan} :
      clause fs w words = .ok (p, rest) → ClauseTurn fs (w :: words) rest

/-- So many turns, one after the other. -/
inductive Turns (turn : List String → List String → Prop) :
    Nat → List String → List String → Prop
  | none (words : List String) : Turns turn 0 words words
  | more {k : Nat} {words left rest : List String} :
      turn words left → Turns turn k left rest → Turns turn (k + 1) words rest

theorem ItemTurn.takesOff (h : ItemTurn words rest) : TakesOff 3 words rest := by
  obtain ⟨-, hcondition⟩ := h
  have hskip : TakesOff 0 words (skipFilterWord words) := takesOff_skipFilterWord words
  exact (hskip.trans (takes_condition _ _ rest hcondition)).mono (Nat.le_refl 3)

theorem ClauseTurn.takesOff (h : ClauseTurn fs words rest) : TakesOff 1 words rest := by
  obtain ⟨hclause⟩ := h
  exact (takes_clause _ _ _ rest hclause).cons _

/-- What every turn takes adds up. -/
theorem Turns.takesOff {turn : List String → List String → Prop} {n k : Nat}
    (hturn : ∀ words rest, turn words rest → TakesOff n words rest)
    (h : Turns turn k words rest) : TakesOff (n * k) words rest := by
  induction h with
  | none words => exact .refl words
  | @more k words left rest hfirst _ ih =>
      have hsum : TakesOff (n + n * k) words rest := (hturn words left hfirst).trans ih
      rw [Nat.mul_succ, Nat.add_comm]
      exact hsum

/-- How the loop over items stops after `k` turns: at a word that ends the clause, with as many
conditions, or at a condition that cannot be read. -/
inductive ItemsStop (words : List String) (k : Nat) (rest : List String) : Prop
  | finished {cs : List Condition} :
      AfterFilter rest → cs.length = k → conditions words = .ok (cs, rest) →
      ItemsStop words k rest
  | failed {err : ParseError} :
      ¬ AfterFilter rest → condition (skipFilterWord rest) = .error err →
      conditions words = .error err → ItemsStop words k rest

/-- How the loop over clauses stops after `k` turns: at the end of the words, with as many
clauses, or at a clause that cannot be read. -/
inductive ClausesStop (fs : Registry) (words : List String) (k : Nat) : List String → Prop
  | finished {ps : List Plan} :
      ps.length = k → clauses fs words = .ok ps → ClausesStop fs words k []
  | failed {w : String} {tail : List String} {err : ParseError} :
      clause fs w tail = .error err → clauses fs words = .error err →
      ClausesStop fs words k (w :: tail)

theorem conditions_run (words : List String) :
    ∃ k rest, Turns ItemTurn k words rest ∧ ItemsStop words k rest := by
  induction words using conditions.induct with
  | case1 words hend =>
      have hafter : AfterFilter words := afterFilter_iff.mp hend
      refine ⟨0, words, .none words, .finished hafter List.length_nil ?_⟩
      rw [conditions, if_pos hend]
  | case2 words hend err hcondition =>
      have hafter : ¬ AfterFilter words := fun h => hend (afterFilter_iff.mpr h)
      exact ⟨0, words, .none words,
        .failed hafter hcondition (conditions_error hafter hcondition)⟩
  | case3 words hend c left hcondition _ _ ih =>
      have hafter : ¬ AfterFilter words := fun h => hend (afterFilter_iff.mpr h)
      have hnext := conditions_eq hafter hcondition
      obtain ⟨k, rest, hturns, hstop⟩ := ih
      refine ⟨k + 1, rest, .more ⟨hafter, hcondition⟩ hturns, ?_⟩
      cases hstop with
      | @finished cs hrest hlength hcs =>
          refine @ItemsStop.finished words (k + 1) rest (c :: cs) hrest ?_ ?_
          · rw [List.length_cons, hlength]
          · rw [hnext, hcs]
            rfl
      | failed hrest hfailed herr =>
          refine .failed hrest hfailed ?_
          rw [hnext, herr]
          rfl

/-- One clause that is read is followed by the clauses behind it; the check that it has taken
any words never fails. -/
theorem clauses_eq {w : String} {p : Plan} (h : clause fs w words = .ok (p, rest)) :
    clauses fs (w :: words) = (clauses fs rest).map (p :: ·) := by
  obtain ⟨tail, rfl⟩ := (takes_clause w words p rest h).suffix
  exact clauses_cons h

theorem clauses_run (fs : Registry) (words : List String) :
    ∃ k rest, Turns (ClauseTurn fs) k words rest ∧ ClausesStop fs words k rest := by
  induction words using clauses.induct fs with
  | case1 =>
      refine ⟨0, [], .none [], @ClausesStop.finished fs [] 0 [] rfl ?_⟩
      rw [clauses]
  | case2 w words err hclause =>
      refine ⟨0, w :: words, .none _, .failed hclause ?_⟩
      rw [clauses, hclause]
  | case3 w words p left hclause _ ih =>
      have hnext := clauses_eq hclause
      obtain ⟨k, rest, hturns, hstop⟩ := ih
      refine ⟨k + 1, rest, .more ⟨hclause⟩ hturns, ?_⟩
      cases hstop with
      | @finished ps hlength hps =>
          refine @ClausesStop.finished fs (w :: words) (k + 1) (p :: ps) ?_ ?_
          · rw [List.length_cons, hlength]
          · rw [hnext, hps]
            rfl
      | failed hfailed herr =>
          refine .failed hfailed ?_
          rw [hnext, herr]
          rfl
  | case4 w words p left hclause hlength =>
      exact absurd (Nat.lt_succ_of_le (takes_clause w words p left hclause).length_le) hlength

/-! ## No clause takes no words

An error is handed up from the words through the productions to the query.  Each of these
has errors of its own, but that a clause takes no words is none of them. -/

/-- The outcome is not the error of a clause that took no words. -/
def Advances {α : Type} (x : Except ParseError α) : Prop :=
  ∀ left : List String, x ≠ .error (.noProgress left)

namespace Advances

variable {α β : Type} {x : Except ParseError α}

theorem ok (a : α) : Advances (.ok a : Except ParseError α) := by
  intro left h
  cases h

theorem map (h : Advances x) (f : α → β) : Advances (x.map f) :=
  fun left hleft => h left (Outcome.map_eq_error_iff.mp hleft)

theorem bind (h : Advances x) {f : α → Except ParseError β} (hf : ∀ a, Advances (f a)) :
    Advances (x >>= f) := by
  intro left hleft
  rcases Outcome.bind_eq_error_iff.mp hleft with hx | ⟨a, -, hfa⟩
  · exact h left hx
  · exact hf a left hfa

theorem mapM {f : α → Except ParseError β} (hf : ∀ a, Advances (f a)) (as : List α) :
    Advances (as.mapM f) := by
  intro left hleft
  obtain ⟨a, -, ha⟩ := Outcome.exists_of_mapM_error hleft
  exact hf a left ha

end Advances

/-- A word that is refused is unknown, or it begins like a call and is refused as one. -/
theorem classify_eq_error {call : String → Except ParseError Expr} {word : String}
    {err : ParseError} (h : Word.classify call word = .error err) :
    err = .unknownToken word ∨ call word = .error err := by
  unfold Word.classify at h
  cases hsplit : Key.split word with
  | mk first? text =>
      cases first? with
      | none =>
          rw [hsplit] at h
          dsimp only at h
          split_ifs at h
          cases h
          exact Or.inl rfl
      | some first =>
          rw [hsplit] at h
          dsimp only at h
          split_ifs at h
          · exact Or.inr (Outcome.map_eq_error_iff.mp h)
          · cases h
            exact Or.inl rfl

theorem advances_classify {call : String → Except ParseError Expr}
    (hcall : ∀ w, Advances (call w)) (word : String) : Advances (Word.classify call word) := by
  intro left h
  rcases classify_eq_error h with herr | hword
  · cases herr
  · exact hcall word left hword

theorem advances_bare (word : String) : Advances (Word.bare word) := by
  unfold Word.bare
  split <;> intro left h <;> cases h

theorem advances_argument (word : String) : Advances (Word.argument word) := by
  intro left h
  unfold Word.argument at h
  split at h
  · cases h
  · cases h
  · rename_i err hclassify
    cases h
    exact advances_classify advances_bare word left hclassify

theorem advances_call (word : String) : Advances (Word.call word) := by
  unfold Word.call
  split
  · exact .ok _
  · exact (Advances.mapM (fun arg => advances_argument _) _).map _
  · intro left h
    cases h

theorem advances_identify (word : String) : Advances (Word.identify word) :=
  advances_classify advances_call word

theorem advances_scan : ∀ (n : Nat) (words : List String), Advances (scan n words)
  | 0, words => .ok _
  | n + 1, [] => .ok _
  | n + 1, word :: words => by
      intro left h
      rw [scan] at h
      split at h
      · rename_i err hidentify
        cases h
        exact advances_identify word left hidentify
      · cases h
      · exact (advances_scan n words).map _ left h

theorem advances_condition : ∀ words : List String, Advances (condition words)
  | [] => by
      intro left h
      cases h
  | word :: words => by
      intro left h
      rw [condition] at h
      split at h
      · rename_i err hscan
        cases h
        exact advances_scan 3 (word :: words) left hscan
      · exact (advances_condition words).map _ left h
      · split at h
        · cases h
        · cases h

/-- An error of the whole filter clause is the error of one of its conditions. -/
theorem advances_conditions (words : List String) : Advances (conditions words) := by
  intro left h
  obtain ⟨k, rest, -, hstop⟩ := conditions_run words
  cases hstop with
  | finished _ _ hok =>
      rw [hok] at h
      cases h
  | failed _ hcondition herr =>
      rw [herr] at h
      cases h
      exact advances_condition _ left hcondition

theorem advances_filters (words : List String) : Advances (filters words) :=
  (advances_conditions words).map _

theorem advances_value (t : Token) : Advances (value fs t) := by
  intro left h
  unfold value at h
  split at h
  · split at h
    · cases h
    · cases h
  · cases h

theorem advances_values (words : List String) : Advances (values fs words) :=
  (advances_scan _ words).bind fun found =>
    (Advances.mapM advances_value found.1).bind fun _ => .ok _

theorem advances_someValues (words : List String) : Advances (someValues fs words) := by
  refine (advances_values words).bind fun found => ?_
  intro left h
  dsimp only at h
  split at h
  · cases h
  · cases h

theorem advances_table (words : List String) : Advances (table fs words) :=
  (advances_someValues words).bind fun _ => .ok _

theorem advances_sort (words : List String) : Advances (sort fs words) :=
  (advances_someValues words).bind fun _ => .ok _

theorem advances_summary (words : List String) : Advances (summary fs words) := by
  refine (advances_someValues words).bind fun found => ?_
  dsimp only
  split
  · exact (advances_values _).bind fun _ => .ok _
  · exact .ok _

theorem advances_into (words : List String) : Advances (into fs words) := by
  unfold into
  split
  · exact advances_table _
  · exact advances_summary _
  · intro left h
    cases h
  · intro left h
    cases h

theorem advances_clause (w : String) (words : List String) : Advances (clause fs w words) := by
  unfold clause
  split_ifs
  · exact advances_filters words
  · exact advances_into words
  · exact advances_sort words
  · intro left h
    cases h

/-- An error of the whole query is the error of one of its clauses. -/
theorem advances_clauses (words : List String) : Advances (clauses fs words) := by
  intro left h
  obtain ⟨k, rest, -, hstop⟩ := clauses_run fs words
  cases hstop with
  | finished _ hok =>
      rw [hok] at h
      cases h
  | failed hclause herr =>
      rw [herr] at h
      cases h
      exact advances_clause _ _ left hclause

/-! ## Words taken, and loops that stop -/

/-- What every production leaves is the end of its input, and it takes at least the words that
its keyword calls for; a filter clause takes none exactly where there is none to take.  So both
loops stop on all words, after no more turns than the words allow, and no query fails because
a clause has taken nothing. -/
theorem productions_take_words (fs : Registry) :
    (Takes 3 condition ∧ Takes 0 filters ∧ Takes 2 (into fs) ∧ Takes 1 (table fs)
        ∧ Takes 1 (summary fs) ∧ Takes 1 (sort fs))
      ∧ (∀ words : List String,
          (∃ p : Plan, filters words = .ok (p, words)) ↔ AfterFilter words)
      ∧ (∀ words : List String,
          (∃ k rest, Turns ItemTurn k words rest ∧ ItemsStop words k rest)
            ∧ ∀ (k : Nat) (rest : List String),
              Turns ItemTurn k words rest → TakesOff (3 * k) words rest)
      ∧ (∀ words : List String,
          (∃ k rest, Turns (ClauseTurn fs) k words rest ∧ ClausesStop fs words k rest)
            ∧ ∀ (k : Nat) (rest : List String),
              Turns (ClauseTurn fs) k words rest → TakesOff k words rest)
      ∧ ∀ words left : List String, Plan.parse fs words ≠ .error (.noProgress left) := by
  refine ⟨⟨takes_condition, takes_filters, takes_into, takes_table, takes_summary, takes_sort⟩,
    fun words => ⟨?_, filters_of_afterFilter⟩, fun words => ⟨conditions_run words, ?_⟩,
    fun words => ⟨clauses_run fs words, ?_⟩, ?_⟩
  · rintro ⟨p, h⟩
    exact (filters_eq_ok h).2
  · intro k rest hturns
    exact hturns.takesOff fun _ _ => ItemTurn.takesOff
  · intro k rest hturns
    have htaken : TakesOff (1 * k) words rest := hturns.takesOff fun _ _ => ClauseTurn.takesOff
    rwa [Nat.one_mul] at htaken
  · intro words left
    exact (advances_clauses words).map _ left

/-- Two conditions, the second one introduced and negated, are two turns of one loop; with the
sort behind them they are two turns of the other. -/
theorem productions_take_words_twoConditions :
    let words := ["c.a", "eq", ".1", "where", "not", "c.b", "eq", ".2", "sort", "c.a"]
    (condition words = .ok (.compare .equals (.field "c.a") (.literal "1"), words.drop 3)
        ∧ TakesOff 3 words (words.drop 3))
      ∧ (Turns ItemTurn 2 words ["sort", "c.a"] ∧ TakesOff 6 words ["sort", "c.a"])
      ∧ Turns (ClauseTurn .empty) 2 ("filter" :: words) [] ∧ TakesOff 2 ("filter" :: words) [] := by
  intro words
  have hfirst : ConditionWords ["c.a", "eq", ".1"]
      (.compare .equals (.field "c.a") (.literal "1")) :=
    .compare (.field rfl) rfl (.literal rfl)
  have hsecond : ConditionWords ["not", "c.b", "eq", ".2"]
      (.not (.compare .equals (.field "c.b") (.literal "2"))) :=
    .not rfl (.compare (.field rfl) rfl (.literal rfl))
  have hcondition := condition_complete hfirst (words.drop 3)
  have hitems : Turns ItemTurn 2 words ["sort", "c.a"] :=
    .more ⟨fun h => absurd (afterFilter_iff.mpr h) (by decide), hcondition⟩
      (.more ⟨not_afterFilter_cons (Or.inr rfl) _, condition_complete hsecond _⟩ (.none _))
  have hafter : AfterFilter ["sort", "c.a"] := afterFilter_iff.mp (by decide)
  obtain ⟨w, tail, hwords, hfilter⟩ := filterClause_complete .empty
    (.mk (Or.inl rfl) (.plain hfirst (.introduced (Or.inr rfl) hsecond .nil))) hafter
  cases hwords
  have hclauses : Turns (ClauseTurn .empty) 2 ("filter" :: words) [] :=
    .more ⟨hfilter⟩ (.more (.mk (p := .sort [.field "c.a"]) rfl) (.none _))
  obtain ⟨⟨htake, -⟩, -, hitemTurns, hclauseTurns, -⟩ := productions_take_words .empty
  exact ⟨⟨hcondition, htake _ _ _ hcondition⟩, ⟨hitems, (hitemTurns words).2 2 _ hitems⟩,
    hclauses, (hclauseTurns _).2 2 _ hclauses⟩

end Parser

end RecordQuery
