/-
# The parser reads the grammar

`Plan.parse` succeeds on exactly the lists of words of `Grammar.QueryWords`, and
gives the simplified compound of what the clauses mean.

The parser hands the words that it leaves over from one production to the next,
and the grammar knows nothing of that.  The two meet in one form, proved for each
production from the scan upwards:

    production words = .ok (what, rest)
      ↔ words = ws ++ rest, the phrase `ws` means `what`, and `rest` may follow

What may follow decides whether a phrase ends where it does: a list of values goes
up to a terminator, the items of a filter clause go up to `into`, `sort` or the
end.  A condition ends by itself.  It is classified three words at a time, but a
condition is at least three words long, so nothing behind it is looked at.
-/
import RecordQuery.Proofs.Outcome
import RecordQuery.Proofs.Plan.Simplify
import RecordQuery.Proofs.Query.Grammar
import RecordQuery.Query.Builtin

namespace RecordQuery

open Grammar

namespace Parser

/-! ## Scanning -/

/-- The word becomes the token, and the token ends no list. -/
structure TokenWord (word : String) (t : Token) : Prop where
  identified : Word.identify word = .ok t
  inside : ∀ w : String, t ≠ .terminator w

/-- The words are at their end, or the next one is a terminator. -/
def AtTerminator (rest : List String) : Prop :=
  ∀ word ∈ rest.head?, ∃ w, Word.identify word = .ok (.terminator w)

theorem scan_cons {n : Nat} {word : String} {t : Token} (h : TokenWord word t)
    (words : List String) :
    scan (n + 1) (word :: words) = (scan n words).map fun (ts, rest) => (t :: ts, rest) := by
  have hinside := h.inside
  rw [scan, h.identified]
  cases t with
  | terminator w => exact absurd rfl (hinside w)
  | not => rfl
  | compare op => rfl
  | value e => rfl

/-- Words that are scanned stand in front of what is scanned after them. -/
theorem scan_append {ws : List String} {ts : List Token} (h : List.Forall₂ TokenWord ws ts)
    (n : Nat) (rest : List String) :
    scan (ws.length + n) (ws ++ rest)
      = (scan n rest).map fun (ts', left) => (ts ++ ts', left) := by
  induction h with
  | nil =>
      rw [List.length_nil, Nat.zero_add, List.nil_append]
      cases scan n rest with
      | error err => rfl
      | ok found => rfl
  | @cons word t ws ts hword _ ih =>
      rw [List.length_cons, Nat.add_right_comm, List.cons_append, scan_cons hword, ih]
      cases scan n rest with
      | error err => rfl
      | ok found => rfl

theorem scan_atTerminator {rest : List String} (h : AtTerminator rest) :
    scanAll rest = .ok ([], rest) := by
  cases rest with
  | nil => rfl
  | cons word rest =>
      obtain ⟨w, hw⟩ := h word rfl
      rw [scanAll, List.length_cons, scan, hw]

theorem scan_sound : ∀ {n : Nat} {words rest : List String} {ts : List Token},
    scan n words = .ok (ts, rest) →
      ∃ ws, words = ws ++ rest ∧ List.Forall₂ TokenWord ws ts
        ∧ (ws.length < n → AtTerminator rest)
  | 0, words, rest, ts, h => by
      rw [scan, Except.ok.injEq, Prod.mk.injEq] at h
      obtain ⟨rfl, rfl⟩ := h
      exact ⟨[], rfl, .nil, fun hlt => absurd hlt (Nat.lt_irrefl 0)⟩
  | n + 1, [], rest, ts, h => by
      rw [scan, Except.ok.injEq, Prod.mk.injEq] at h
      obtain ⟨rfl, rfl⟩ := h
      exact ⟨[], rfl, .nil, fun _ word hword => by cases hword⟩
  | n + 1, word :: words, rest, ts, h => by
      rw [scan] at h
      split at h
      · cases h
      · rename_i w hid
        rw [Except.ok.injEq, Prod.mk.injEq] at h
        obtain ⟨rfl, rfl⟩ := h
        refine ⟨[], rfl, .nil, fun _ word' hword => ?_⟩
        cases hword
        exact ⟨w, hid⟩
      · rename_i t hinside hid
        obtain ⟨⟨ts', left⟩, hscan, h⟩ := Outcome.map_eq_ok_iff.mp h
        rw [Prod.mk.injEq] at h
        obtain ⟨rfl, rfl⟩ := h
        obtain ⟨ws, rfl, hws, hend⟩ := scan_sound hscan
        exact ⟨word :: ws, rfl, .cons ⟨hid, hinside⟩ hws,
          fun hlt => hend (Nat.lt_of_succ_lt_succ hlt)⟩

/-- All words up to the next terminator become tokens. -/
theorem scanAll_eq_ok_iff {words rest : List String} {ts : List Token} :
    scanAll words = .ok (ts, rest) ↔
      ∃ ws, words = ws ++ rest ∧ List.Forall₂ TokenWord ws ts ∧ AtTerminator rest := by
  constructor
  · intro h
    obtain ⟨ws, rfl, hws, hend⟩ := scan_sound h
    refine ⟨ws, rfl, hws, ?_⟩
    cases rest with
    | nil => exact fun word hword => nomatch hword
    | cons word rest =>
        apply hend
        rw [List.length_append, List.length_cons]
        omega
  · rintro ⟨ws, rfl, hws, hend⟩
    rw [scanAll, List.length_append, scan_append hws, ← scanAll, scan_atTerminator hend]
    simp only [Except.map, List.append_nil]

/-! ## Conditions -/

/-- Can a comparison stand beside the expression? -/
def isOperand (e : Expr) : Bool :=
  (Token.value e).kind ∈ Token.operandKinds

/-- Three tokens match the pattern of a comparison when the outer ones are operands. -/
theorem isSome_matching (lhs rhs : Expr) (op : Comparison) :
    (Token.matching [.value lhs, .compare op, .value rhs] Token.comparisonPattern).isSome
      = (isOperand lhs && isOperand rhs) := by
  cases op <;> cases lhs <;> cases rhs <;> rfl

theorem isOperand_iff {w : String} {e : Expr} (h : Word.identify w = .ok (.value e)) :
    isOperand e = true ↔ OperandWord w e := by
  cases e with
  | literal text => exact ⟨fun _ => .literal h, fun _ => rfl⟩
  | field key => exact ⟨fun _ => .field h, fun _ => rfl⟩
  | call function args =>
      constructor
      · intro hoperand; exact absurd hoperand Bool.false_ne_true
      · intro hoperand; cases hoperand

theorem OperandWord.identified {w : String} {e : Expr} (h : OperandWord w e) :
    Word.identify w = .ok (.value e) := by
  cases h with
  | field h => exact h
  | literal h => exact h

theorem OperandWord.token {w : String} {e : Expr} (h : OperandWord w e) :
    TokenWord w (.value e) :=
  ⟨OperandWord.identified h, nofun⟩

theorem comparison?_eq_some {ts : List Token} {c : Condition} (h : comparison? ts = some c) :
    ∃ op lhs rhs, ts = [.value lhs, .compare op, .value rhs] ∧ c = .compare op lhs rhs
      ∧ isOperand lhs = true ∧ isOperand rhs = true := by
  unfold comparison? at h
  split at h
  · rename_i lhs op rhs
    rw [isSome_matching] at h
    split at h
    · rename_i hboth
      rw [Bool.and_eq_true] at hboth
      exact ⟨op, lhs, rhs, rfl, (Option.some.inj h).symm, hboth.1, hboth.2⟩
    · cases h
  · cases h

/-- The words of a condition are never fewer than three, and none of them ends a
list: the look-ahead stays inside. -/
theorem ConditionWords.lookahead {ws : List String} {c : Condition} (h : ConditionWords ws c) :
    ∃ w₁ w₂ ws' t₁ t₂, ws = w₁ :: w₂ :: ws' ∧ TokenWord w₁ t₁ ∧ TokenWord w₂ t₂ := by
  induction h with
  | compare hl hop _ =>
      exact ⟨_, _, _, _, _, rfl, OperandWord.token hl, ⟨hop, nofun⟩⟩
  | not hnot _ ih =>
      obtain ⟨w₁, w₂, ws', t₁, t₂, rfl, h₁, -⟩ := ih
      exact ⟨_, _, _, _, _, rfl, ⟨hnot, nofun⟩, h₁⟩

theorem condition_sound : ∀ {words rest : List String} {c : Condition},
    condition words = .ok (c, rest) → ∃ ws, words = ws ++ rest ∧ ConditionWords ws c
  | [], _, _, h => by cases h
  | word :: words, rest, c, h => by
      rw [condition] at h
      split at h
      · cases h
      · rename_i ts left hscan
        obtain ⟨⟨c', rest'⟩, hin, h⟩ := Outcome.map_eq_ok_iff.mp h
        rw [Prod.mk.injEq] at h
        obtain ⟨rfl, rfl⟩ := h
        obtain ⟨ws, rfl, hws⟩ := condition_sound hin
        obtain ⟨ws', happ, htokens, -⟩ := scan_sound hscan
        obtain ⟨w, ws'', hw, -, rfl⟩ := List.forall₂_cons_right_iff.mp htokens
        rw [List.cons_append, List.cons.injEq] at happ
        obtain ⟨rfl, -⟩ := happ
        exact ⟨_ :: ws, rfl, .not hw.identified hws⟩
      · rename_i ts left _ hscan
        split at h
        · rename_i c' hc
          rw [Except.ok.injEq, Prod.mk.injEq] at h
          obtain ⟨rfl, rfl⟩ := h
          obtain ⟨op, lhs, rhs, rfl, rfl, hl, hr⟩ := comparison?_eq_some hc
          obtain ⟨ws, happ, htokens, -⟩ := scan_sound hscan
          rcases htokens with _ | ⟨h₁, htokens⟩
          rcases htokens with _ | ⟨h₂, htokens⟩
          rcases htokens with _ | ⟨h₃, htokens⟩
          cases htokens
          exact ⟨_, happ, .compare ((isOperand_iff h₁.identified).mp hl) h₂.identified
            ((isOperand_iff h₃.identified).mp hr)⟩
        · cases h

theorem condition_complete {ws : List String} {c : Condition} (h : ConditionWords ws c)
    (rest : List String) : condition (ws ++ rest) = .ok (c, rest) := by
  induction h with
  | @compare w₁ w₂ w₃ lhs rhs op hl hop hr =>
      have htokens : List.Forall₂ TokenWord [w₁, w₂, w₃] [.value lhs, .compare op, .value rhs] :=
        .cons (OperandWord.token hl)
          (.cons ⟨hop, fun _ h => by cases h⟩ (.cons (OperandWord.token hr) .nil))
      have hscan : scan 3 (w₁ :: w₂ :: w₃ :: rest)
          = .ok ([.value lhs, .compare op, .value rhs], rest) := scan_append htokens 0 rest
      have hboth : (isOperand lhs && isOperand rhs) = true := by
        rw [Bool.and_eq_true]
        exact ⟨(isOperand_iff (OperandWord.identified hl)).mpr hl,
          (isOperand_iff (OperandWord.identified hr)).mpr hr⟩
      simp only [List.cons_append, List.nil_append, condition, hscan, comparison?, isSome_matching,
        hboth, if_true]
  | @not w ws c hnot hws ih =>
      obtain ⟨w₁, w₂, ws', t₁, t₂, rfl, h₁, h₂⟩ := ConditionWords.lookahead hws
      have htokens : List.Forall₂ TokenWord [w, w₁, w₂] [.not, t₁, t₂] :=
        .cons ⟨hnot, fun _ h => by cases h⟩ (.cons h₁ (.cons h₂ .nil))
      have hscan : scan 3 (w :: w₁ :: w₂ :: (ws' ++ rest))
          = .ok ([.not, t₁, t₂], ws' ++ rest) := scan_append htokens 0 _
      rw [List.cons_append, List.cons_append] at ih
      rw [List.cons_append, List.cons_append, List.cons_append, condition, hscan]
      show (condition (w₁ :: w₂ :: (ws' ++ rest))).map _ = _
      rw [ih]
      rfl

/-! ## Items of a filter clause -/

theorem identify_of_isClauseWord {w : String} (h : IsClauseWord w) :
    Word.identify w = .ok (.terminator w) := by
  rcases h with (rfl | rfl) | rfl | rfl <;> rfl

theorem TokenWord.not_isClauseWord {w : String} {t : Token} (h : TokenWord w t) :
    ¬ IsClauseWord w := by
  intro hw
  have hterminator : Except.ok t = .ok (.terminator w) :=
    h.identified.symm.trans (identify_of_isClauseWord hw)
  exact h.inside w (Except.ok.inj hterminator)

theorem afterFilter_iff {words : List String} :
    (words.head?.all fun word => word = "into" ∨ word = "sort") = true ↔ AfterFilter words := by
  rw [Option.all_eq_true]
  constructor
  · intro h w hw
    exact of_decide_eq_true (h w hw)
  · intro h w hw
    exact decide_eq_true (h w hw)

theorem not_afterFilter_cons {w : String} (h : IsFilterWord w) (ws : List String) :
    ¬ AfterFilter (w :: ws) := by
  intro hafter
  have hnext : w = "into" ∨ w = "sort" := hafter w rfl
  rcases h with rfl | rfl <;> revert hnext <;> decide

theorem skipFilterWord_of_isFilterWord {w : String} (h : IsFilterWord w) (ws : List String) :
    skipFilterWord (w :: ws) = ws := by
  rw [skipFilterWord]
  exact if_pos h

theorem skipFilterWord_of_not {w : String} (h : ¬ IsFilterWord w) (ws : List String) :
    skipFilterWord (w :: ws) = w :: ws := by
  rw [skipFilterWord]
  exact if_neg h

/-- The condition behind the word that may introduce it is one more item. -/
theorem itemWords_cons {words left ws : List String} {c : Condition} {cs : List Condition}
    (h : condition (skipFilterWord words) = .ok (c, left)) (hitems : ItemWords ws cs)
    {rest : List String} (hleft : left = ws ++ rest) :
    ∃ ws', words = ws' ++ rest ∧ ItemWords ws' (c :: cs) := by
  subst hleft
  cases words with
  | nil => cases h
  | cons w words =>
      by_cases hw : IsFilterWord w
      · rw [skipFilterWord_of_isFilterWord hw] at h
        obtain ⟨us, rfl, hus⟩ := condition_sound h
        exact ⟨w :: (us ++ ws), by simp, .introduced hw hus hitems⟩
      · rw [skipFilterWord_of_not hw] at h
        obtain ⟨us, happ, hus⟩ := condition_sound h
        exact ⟨us ++ ws, by rw [happ, List.append_assoc], .plain hus hitems⟩

theorem conditions_sound {words rest : List String} {cs : List Condition}
    (h : conditions words = .ok (cs, rest)) :
    ∃ ws, words = ws ++ rest ∧ ItemWords ws cs ∧ AfterFilter rest := by
  induction words using conditions.induct generalizing cs with
  | case1 words hend =>
      rw [conditions, if_pos hend, Except.ok.injEq, Prod.mk.injEq] at h
      obtain ⟨rfl, rfl⟩ := h
      exact ⟨[], rfl, .nil, afterFilter_iff.mp hend⟩
  | case2 words hend err hcondition =>
      rw [conditions, if_neg hend] at h
      split at h
      · cases h
      · rename_i hok
        rw [hcondition] at hok
        cases hok
  | case3 words hend c left hcondition _ _ ih =>
      rw [conditions, if_neg hend] at h
      split at h
      · cases h
      · rename_i c' left' hok
        rw [hcondition] at hok
        cases hok
        obtain ⟨⟨cs', rest'⟩, hmore, h⟩ := Outcome.map_eq_ok_iff.mp h
        rw [Prod.mk.injEq] at h
        obtain ⟨rfl, rfl⟩ := h
        obtain ⟨ws, hleft, hws, hafter⟩ := ih hmore
        obtain ⟨ws', happ, hws'⟩ := itemWords_cons hcondition hws hleft
        exact ⟨ws', happ, hws', hafter⟩

/-- A condition is read when something other than the end of the clause comes next. -/
theorem conditions_eq {words left : List String} {c : Condition}
    (hend : ¬ AfterFilter words) (h : condition (skipFilterWord words) = .ok (c, left)) :
    conditions words = (conditions left).map fun (cs, rest) => (c :: cs, rest) := by
  rw [conditions, if_neg (fun hall => hend (afterFilter_iff.mp hall))]
  split
  · rename_i hcondition
    rw [h] at hcondition
    cases hcondition
  · rename_i hcondition
    rw [h] at hcondition
    cases hcondition
    rfl

/-- A condition that cannot be read is the end of the whole clause. -/
theorem conditions_error {words : List String} {err : ParseError}
    (hend : ¬ AfterFilter words) (h : condition (skipFilterWord words) = .error err) :
    conditions words = .error err := by
  rw [conditions, if_neg (fun hall => hend (afterFilter_iff.mp hall))]
  split
  · rename_i hcondition
    rw [h] at hcondition
    cases hcondition
    rfl
  · rename_i hcondition
    rw [h] at hcondition
    cases hcondition

/-- The items that are read stand in front of what is read behind them, whatever that is. -/
theorem conditions_append {ws : List String} {cs : List Condition} (h : ItemWords ws cs)
    (rest : List String) :
    conditions (ws ++ rest) = (conditions rest).map fun (more, left) => (cs ++ more, left) := by
  induction h with
  | nil =>
      rw [List.nil_append]
      cases conditions rest with
      | error err => rfl
      | ok found => rfl
  | @plain ws items c cs hws _ ih =>
      obtain ⟨w₁, w₂, ws', t₁, t₂, rfl, hw, -⟩ := ConditionWords.lookahead hws
      have hclause : ¬ IsClauseWord w₁ := TokenWord.not_isClauseWord hw
      have hend : ¬ AfterFilter (w₁ :: w₂ :: ws' ++ items ++ rest) :=
        fun hafter => hclause (Or.inr (hafter w₁ rfl))
      have hskip : skipFilterWord (w₁ :: w₂ :: ws' ++ items ++ rest)
          = w₁ :: w₂ :: ws' ++ (items ++ rest) := by
        rw [List.append_assoc, List.cons_append,
          skipFilterWord_of_not fun hfilter => hclause (Or.inl hfilter)]
      rw [conditions_eq hend (by rw [hskip]; exact condition_complete hws _), ih]
      cases conditions rest with
      | error err => rfl
      | ok found => rfl
  | @introduced w ws items c cs hw hws _ ih =>
      have hend : ¬ AfterFilter (w :: (ws ++ items) ++ rest) := not_afterFilter_cons hw _
      have hskip : skipFilterWord (w :: (ws ++ items) ++ rest) = ws ++ (items ++ rest) := by
        rw [List.cons_append, skipFilterWord_of_isFilterWord hw, List.append_assoc]
      rw [conditions_eq hend (by rw [hskip]; exact condition_complete hws _), ih]
      cases conditions rest with
      | error err => rfl
      | ok found => rfl

theorem conditions_complete {ws : List String} {cs : List Condition} (h : ItemWords ws cs)
    {rest : List String} (hafter : AfterFilter rest) :
    conditions (ws ++ rest) = .ok (cs, rest) := by
  have hrest : conditions rest = .ok ([], rest) := by
    rw [conditions, if_pos (afterFilter_iff.mpr hafter)]
  rw [conditions_append h, hrest]
  simp only [Except.map, List.append_nil]

/-! ## Lists of values -/

mutual

theorem unknownCall?_eq_none_iff (fs : Registry) : ∀ e : Expr,
    unknownCall? fs e = none ↔ ∀ name ∈ e.called, fs.knows name = true
  | .literal _ => ⟨fun _ _ h => absurd h List.not_mem_nil, fun _ => rfl⟩
  | .field _ => ⟨fun _ _ h => absurd h List.not_mem_nil, fun _ => rfl⟩
  | .call function args => by
      rw [unknownCall?, Expr.called, List.forall_mem_cons, ← unknownArg?_eq_none_iff fs args]
      by_cases h : fs.knows function = true
      · rw [if_pos h]
        exact ⟨fun hargs => ⟨h, hargs⟩, And.right⟩
      · rw [if_neg h]
        exact ⟨fun hsome => (nomatch hsome), fun hboth => absurd hboth.1 h⟩

theorem unknownArg?_eq_none_iff (fs : Registry) : ∀ es : List Expr,
    unknownArg? fs es = none ↔ ∀ name ∈ calledByArgs es, fs.knows name = true
  | [] => ⟨fun _ _ h => absurd h List.not_mem_nil, fun _ => rfl⟩
  | e :: es => by
      rw [unknownArg?, calledByArgs, Option.or_eq_none_iff, List.forall_mem_append,
        unknownCall?_eq_none_iff fs e, unknownArg?_eq_none_iff fs es]

end

theorem value_eq_ok_iff {fs : Registry} {t : Token} {e : Expr} :
    value fs t = .ok e ↔ t = .value e ∧ ∀ name ∈ e.called, fs.knows name = true := by
  rw [← unknownCall?_eq_none_iff]
  unfold value
  split
  · rename_i e'
    cases hcall : unknownCall? fs e' with
    | none =>
        constructor
        · intro h; cases h; exact ⟨rfl, hcall⟩
        · rintro ⟨h, -⟩; cases h; rfl
    | some function =>
        constructor
        · intro h; cases h
        · rintro ⟨h, hnone⟩; cases h; rw [hcall] at hnone; cases hnone
  · rename_i hvalue
    constructor
    · intro h; cases h
    · rintro ⟨h, -⟩; exact absurd h (hvalue e)

/-- Scanned words whose tokens are values are words that are values. -/
theorem forall₂_valueWord_iff {fs : Registry} {ws : List String} {es : List Expr} :
    List.Forall₂ (ValueWord fs) ws es ↔
      ∃ ts, List.Forall₂ TokenWord ws ts ∧ List.Forall₂ (fun t e => value fs t = .ok e) ts es := by
  constructor
  · intro h
    induction h with
    | nil => exact ⟨[], .nil, .nil⟩
    | @cons w e ws es hw _ ih =>
        obtain ⟨ts, hts, hes⟩ := ih
        exact ⟨.value e :: ts, .cons ⟨hw.identified, nofun⟩ hts,
          .cons (value_eq_ok_iff.mpr ⟨rfl, hw.registered⟩) hes⟩
  · rintro ⟨ts, hts, hes⟩
    induction hts generalizing es with
    | nil => cases hes; exact .nil
    | cons hw _ ih =>
        rcases hes with _ | ⟨he, hes⟩
        obtain ⟨rfl, hregistered⟩ := value_eq_ok_iff.mp he
        exact .cons ⟨hw.identified, hregistered⟩ (ih hes)

theorem values_eq_ok_iff {fs : Registry} {words rest : List String} {es : List Expr} :
    values fs words = .ok (es, rest) ↔
      ∃ ws, words = ws ++ rest ∧ List.Forall₂ (ValueWord fs) ws es ∧ AtTerminator rest := by
  unfold values
  constructor
  · intro h
    obtain ⟨⟨ts, left⟩, hscan, h⟩ := Outcome.bind_eq_ok_iff.mp h
    obtain ⟨es', hvalues, h⟩ := Outcome.bind_eq_ok_iff.mp h
    cases h
    obtain ⟨ws, happ, hts, hend⟩ := scanAll_eq_ok_iff.mp hscan
    exact ⟨ws, happ, forall₂_valueWord_iff.mpr ⟨ts, hts, Outcome.mapM_eq_ok_iff.mp hvalues⟩, hend⟩
  · rintro ⟨ws, happ, hws, hend⟩
    obtain ⟨ts, hts, hes⟩ := forall₂_valueWord_iff.mp hws
    exact Outcome.bind_eq_ok_iff.mpr ⟨(ts, rest), scanAll_eq_ok_iff.mpr ⟨ws, happ, hts, hend⟩,
      Outcome.bind_eq_ok_iff.mpr ⟨es, Outcome.mapM_eq_ok_iff.mpr hes, rfl⟩⟩

theorem someValues_eq_ok_iff {fs : Registry} {words rest : List String} {es : List Expr} :
    someValues fs words = .ok (es, rest) ↔
      ∃ ws, words = ws ++ rest ∧ SomeValueWords fs ws es ∧ AtTerminator rest := by
  unfold someValues
  constructor
  · intro h
    obtain ⟨⟨es', left⟩, hvalues, h⟩ := Outcome.bind_eq_ok_iff.mp h
    dsimp only at h
    split at h
    · cases h
    · rename_i hnonempty
      cases h
      obtain ⟨ws, happ, hws, hend⟩ := values_eq_ok_iff.mp hvalues
      exact ⟨ws, happ, ⟨hws, fun hnil => hnonempty (by rw [hnil]; rfl)⟩, hend⟩
  · rintro ⟨ws, happ, hws, hend⟩
    have hnonempty : ¬ es.isEmpty = true := fun h => hws.nonempty (List.isEmpty_iff.mp h)
    exact Outcome.bind_eq_ok_iff.mpr ⟨(es, rest),
      values_eq_ok_iff.mpr ⟨ws, happ, hws.each, hend⟩, if_neg hnonempty⟩

/-- The word does not end a list of values. -/
def InsideList (w : String) : Prop :=
  ∀ t : String, Word.identify w ≠ .ok (.terminator t)

theorem insideList_of_identified {w : String} {e : Expr}
    (h : Word.identify w = .ok (.value e)) : InsideList w := by
  intro t ht
  rw [h] at ht
  cases ht

theorem insideList_of_valueWords {fs : Registry} {ws : List String} {es : List Expr}
    (h : List.Forall₂ (ValueWord fs) ws es) : ∀ w ∈ ws, InsideList w := by
  induction h with
  | nil => exact fun _ hw => absurd hw List.not_mem_nil
  | cons hvalue _ ih =>
      exact List.forall_mem_cons.mpr ⟨insideList_of_identified hvalue.identified, ih⟩

theorem eq_nil_of_atTerminator {words : List String} (h : AtTerminator words)
    (hinside : ∀ w ∈ words, InsideList w) : words = [] := by
  cases words with
  | nil => rfl
  | cons w words =>
      obtain ⟨t, ht⟩ := h w rfl
      exact absurd ht (hinside w List.mem_cons_self t)

/-- Where no word ends the list, nothing is left over. -/
theorem valueWords_of_values {fs : Registry} {words rest : List String} {es : List Expr}
    (hinside : ∀ w ∈ words, InsideList w) (h : values fs words = .ok (es, rest)) :
    List.Forall₂ (ValueWord fs) words es := by
  obtain ⟨ws, rfl, hws, hrest⟩ := values_eq_ok_iff.mp h
  have hnil : rest = [] :=
    eq_nil_of_atTerminator hrest fun w hw => hinside w (List.mem_append_right _ hw)
  rwa [hnil, List.append_nil]

theorem someValueWords_of_someValues {fs : Registry} {words rest : List String} {es : List Expr}
    (hinside : ∀ w ∈ words, InsideList w) (h : someValues fs words = .ok (es, rest)) :
    SomeValueWords fs words es := by
  obtain ⟨ws, rfl, hws, hrest⟩ := someValues_eq_ok_iff.mp h
  have hnil : rest = [] :=
    eq_nil_of_atTerminator hrest fun w hw => hinside w (List.mem_append_right _ hw)
  rwa [hnil, List.append_nil]

/-! ## Clauses

A clause is read with the words behind it in place.  For a filter clause they have
to be at their end, or at `into` or `sort`; for any other clause at their end or at
the word of the next clause, which is never `calculate`. -/

/-- The words are at their end, or at the word of a clause. -/
def AtClause (rest : List String) : Prop :=
  ∀ w ∈ rest.head?, IsClauseWord w

theorem AtClause.atTerminator {rest : List String} (h : AtClause rest) : AtTerminator rest :=
  fun w hw => ⟨w, identify_of_isClauseWord (h w hw)⟩

theorem AtClause.not_calculate {rest vs : List String} (h : AtClause rest) :
    rest ≠ "calculate" :: vs := by
  rintro rfl
  have hcalculate : IsClauseWord "calculate" := h _ rfl
  revert hcalculate
  unfold IsClauseWord IsFilterWord
  decide

theorem atTerminator_calculate (words : List String) : AtTerminator ("calculate" :: words) := by
  intro w hw
  cases hw
  exact ⟨"calculate", rfl⟩

theorem filters_sound {w : String} {words rest : List String} {q : Plan} (hw : IsFilterWord w)
    (h : filters words = .ok (q, rest)) :
    ∃ ws p, w :: words = ws ++ rest ∧ FilterClause ws p ∧ AfterFilter rest ∧ q = p.simplify := by
  obtain ⟨⟨cs, rest'⟩, hconditions, h⟩ := Outcome.map_eq_ok_iff.mp h
  rw [Prod.mk.injEq] at h
  obtain ⟨rfl, rfl⟩ := h
  obtain ⟨ws, rfl, hws, hafter⟩ := conditions_sound hconditions
  exact ⟨w :: ws, _, rfl, .mk hw hws, hafter, rfl⟩

theorem table_sound {fs : Registry} {is words rest : List String} {p : Plan}
    (hi : IntoWords is) (h : table fs words = .ok (p, rest)) :
    ∃ ws, words = ws ++ rest ∧ MakingClause fs (is ++ "table" :: ws) p := by
  obtain ⟨⟨es, rest'⟩, hvalues, h⟩ := Outcome.bind_eq_ok_iff.mp h
  cases h
  obtain ⟨ws, rfl, hws, -⟩ := someValues_eq_ok_iff.mp hvalues
  exact ⟨ws, rfl, .table hi hws⟩

/-- The plan of a summary is the grouping alone when nothing is calculated. -/
theorem makingClause_summaryPlan {fs : Registry} {is ws vs : List String} {es as : List Expr}
    (hi : IntoWords is) (hws : SomeValueWords fs ws es) (hvs : List.Forall₂ (ValueWord fs) vs as) :
    MakingClause fs (is ++ "summary" :: (ws ++ "calculate" :: vs))
      (summaryPlan (es.map (Expr.column fs)) (as.map (Expr.column fs))) := by
  cases hvs with
  | nil => exact .groupCalculatingNothing hi hws
  | cons hv hvs => exact .summary hi hws ⟨.cons hv hvs, List.cons_ne_nil _ _⟩

theorem summary_sound {fs : Registry} {is words rest : List String} {p : Plan}
    (hi : IntoWords is) (h : summary fs words = .ok (p, rest)) :
    ∃ ws, words = ws ++ rest ∧ MakingClause fs (is ++ "summary" :: ws) p := by
  obtain ⟨⟨es, left⟩, hvalues, hleft⟩ := Outcome.bind_eq_ok_iff.mp h
  obtain ⟨ws, rfl, hws, -⟩ := someValues_eq_ok_iff.mp hvalues
  dsimp only at hleft
  split at hleft
  · rename_i words'
    obtain ⟨⟨as, rest'⟩, hcalculated, hplan⟩ := Outcome.bind_eq_ok_iff.mp hleft
    cases hplan
    obtain ⟨vs, rfl, hvs, -⟩ := values_eq_ok_iff.mp hcalculated
    exact ⟨ws ++ "calculate" :: vs, by rw [List.append_assoc, List.cons_append],
      makingClause_summaryPlan hi hws hvs⟩
  · cases hleft
    exact ⟨ws, rfl, .group hi hws⟩

theorem intoWords_skipInto (words : List String) :
    ∃ is, IntoWords is ∧ "into" :: words = is ++ skipInto words := by
  unfold skipInto
  split
  · exact ⟨["into", "into"], .twice, rfl⟩
  · exact ⟨["into"], .once, rfl⟩

theorem into_sound {fs : Registry} {words rest : List String} {p : Plan}
    (h : into fs words = .ok (p, rest)) :
    ∃ ws, "into" :: words = ws ++ rest ∧ MakingClause fs ws p := by
  obtain ⟨is, hi, happ⟩ := intoWords_skipInto words
  rw [happ]
  unfold into at h
  split at h
  · rename_i left hskip
    obtain ⟨ws, rfl, hws⟩ := table_sound hi h
    exact ⟨_, by rw [hskip, List.append_assoc, List.cons_append], hws⟩
  · rename_i left hskip
    obtain ⟨ws, rfl, hws⟩ := summary_sound hi h
    exact ⟨_, by rw [hskip, List.append_assoc, List.cons_append], hws⟩
  · cases h
  · cases h

theorem sort_sound {fs : Registry} {words rest : List String} {p : Plan}
    (h : sort fs words = .ok (p, rest)) :
    ∃ ws, "sort" :: words = ws ++ rest ∧ MakingClause fs ws p := by
  obtain ⟨⟨es, rest'⟩, hvalues, h⟩ := Outcome.bind_eq_ok_iff.mp h
  cases h
  obtain ⟨ws, rfl, hws, -⟩ := someValues_eq_ok_iff.mp hvalues
  exact ⟨"sort" :: ws, rfl, .sort hws⟩

/-- Nothing is left to simplify in a clause that is no filter clause. -/
theorem MakingClause.simplify_eq {fs : Registry} {ws : List String} {p : Plan}
    (h : MakingClause fs ws p) : p.simplify = p := by
  cases h with
  | table | group | groupCalculatingNothing | summary | sort => rfl

/-- What a clause gives is a clause of the grammar, simplified. -/
theorem clause_sound {fs : Registry} {w : String} {words rest : List String} {q : Plan}
    (h : clause fs w words = .ok (q, rest)) :
    ∃ ws p, w :: words = ws ++ rest ∧ q = p.simplify
      ∧ (FilterClause ws p ∧ AfterFilter rest ∨ MakingClause fs ws p) := by
  unfold clause at h
  split at h
  · rename_i hw
    obtain ⟨ws, p, happ, hclause, hafter, rfl⟩ := filters_sound hw h
    exact ⟨ws, p, happ, rfl, Or.inl ⟨hclause, hafter⟩⟩
  · split at h
    · rename_i hw
      subst hw
      obtain ⟨ws, happ, hclause⟩ := into_sound h
      exact ⟨ws, q, happ, (MakingClause.simplify_eq hclause).symm, Or.inr hclause⟩
    · split at h
      · rename_i hw
        subst hw
        obtain ⟨ws, happ, hclause⟩ := sort_sound h
        exact ⟨ws, q, happ, (MakingClause.simplify_eq hclause).symm, Or.inr hclause⟩
      · cases h

theorem filterClause_complete {ws rest : List String} {p : Plan} (fs : Registry)
    (h : FilterClause ws p) (hafter : AfterFilter rest) :
    ∃ w tail, ws = w :: tail ∧ clause fs w (tail ++ rest) = .ok (p.simplify, rest) := by
  obtain ⟨hw, hws⟩ := h
  refine ⟨_, _, rfl, ?_⟩
  rw [clause, filters, conditions_complete hws hafter]
  exact if_pos hw

theorem someValues_complete {fs : Registry} {ws rest : List String} {es : List Expr}
    (hws : SomeValueWords fs ws es) (hrest : AtTerminator rest) :
    someValues fs (ws ++ rest) = .ok (es, rest) :=
  someValues_eq_ok_iff.mpr ⟨ws, rfl, hws, hrest⟩

/-- One `into` or two lead to the same production. -/
theorem clause_into (fs : Registry) {is : List String} (h : IntoWords is) :
    ∃ more, is = "into" :: more
      ∧ (∀ words, clause fs "into" (more ++ "table" :: words) = table fs words)
      ∧ (∀ words, clause fs "into" (more ++ "summary" :: words) = summary fs words) := by
  cases h with
  | once => exact ⟨[], rfl, fun _ => rfl, fun _ => rfl⟩
  | twice => exact ⟨["into"], rfl, fun _ => rfl, fun _ => rfl⟩

theorem table_complete {fs : Registry} {ws rest : List String} {es : List Expr}
    (hws : SomeValueWords fs ws es) (hrest : AtTerminator rest) :
    table fs (ws ++ rest) = .ok (.table (es.map (Expr.column fs)), rest) :=
  Outcome.bind_eq_ok_iff.mpr ⟨_, someValues_complete hws hrest, rfl⟩

theorem sort_complete {fs : Registry} {ws rest : List String} {es : List Expr}
    (hws : SomeValueWords fs ws es) (hrest : AtTerminator rest) :
    sort fs (ws ++ rest) = .ok (.sort es, rest) :=
  Outcome.bind_eq_ok_iff.mpr ⟨_, someValues_complete hws hrest, rfl⟩

/-- Without `calculate` behind them the keys are all there is to a summary. -/
theorem summary_complete {fs : Registry} {ws rest : List String} {es : List Expr}
    (hws : SomeValueWords fs ws es) (hrest : AtClause rest) :
    summary fs (ws ++ rest) = .ok (.group (es.map (Expr.column fs)), rest) := by
  refine Outcome.bind_eq_ok_iff.mpr
    ⟨_, someValues_complete hws (AtClause.atTerminator hrest), ?_⟩
  dsimp only
  split
  · exact absurd rfl (AtClause.not_calculate hrest)
  · rfl

theorem summary_calculate {fs : Registry} {ws vs rest : List String} {es as : List Expr}
    (hws : SomeValueWords fs ws es) (hvs : List.Forall₂ (ValueWord fs) vs as)
    (hrest : AtTerminator rest) :
    summary fs (ws ++ "calculate" :: (vs ++ rest))
      = .ok (summaryPlan (es.map (Expr.column fs)) (as.map (Expr.column fs)), rest) := by
  have hkeys := someValues_complete hws (atTerminator_calculate (vs ++ rest))
  have hcalculated : values fs (vs ++ rest) = .ok (as, rest) :=
    values_eq_ok_iff.mpr ⟨vs, rfl, hvs, hrest⟩
  exact Outcome.bind_eq_ok_iff.mpr ⟨_, hkeys, Outcome.bind_eq_ok_iff.mpr ⟨_, hcalculated, rfl⟩⟩

theorem makingClause_complete {fs : Registry} {ws rest : List String} {p : Plan}
    (h : MakingClause fs ws p) (hrest : AtClause rest) :
    ∃ w tail, ws = w :: tail ∧ clause fs w (tail ++ rest) = .ok (p, rest) := by
  have hend : AtTerminator rest := AtClause.atTerminator hrest
  cases h with
  | table hi hws =>
      obtain ⟨more, rfl, htable, -⟩ := clause_into fs hi
      refine ⟨"into", _, List.cons_append, ?_⟩
      rw [List.append_assoc, List.cons_append, htable, table_complete hws hend]
  | group hi hws =>
      obtain ⟨more, rfl, -, hsummary⟩ := clause_into fs hi
      refine ⟨"into", _, List.cons_append, ?_⟩
      rw [List.append_assoc, List.cons_append, hsummary, summary_complete hws hrest]
  | groupCalculatingNothing hi hws =>
      obtain ⟨more, rfl, -, hsummary⟩ := clause_into fs hi
      refine ⟨"into", _, List.cons_append, ?_⟩
      rw [List.append_assoc, List.cons_append, List.append_assoc, hsummary]
      exact summary_calculate hws .nil hend
  | @summary is ws vs es as hi hws hvs =>
      obtain ⟨more, rfl, -, hsummary⟩ := clause_into fs hi
      refine ⟨"into", _, List.cons_append, ?_⟩
      rw [List.append_assoc, List.cons_append, List.append_assoc, List.cons_append, hsummary,
        summary_calculate hws hvs.each hend, summaryPlan]
      have hsome : (as.map (Expr.column fs)).isEmpty = false := by
        rw [List.isEmpty_map]
        exact List.isEmpty_eq_false_iff.mpr hvs.nonempty
      rw [hsome]
      rfl
  | sort hws => exact ⟨"sort", _, rfl, sort_complete hws hend⟩

/-! ## Queries -/

/-- The clauses of a query are phrases of the grammar, each of them simplified. -/
theorem clauses_sound {fs : Registry} {words : List String} {qs : List Plan}
    (h : clauses fs words = .ok qs) :
    ∃ ps, QueryWords fs words ps ∧ qs = ps.map Plan.simplify := by
  induction words using clauses.induct fs generalizing qs with
  | case1 =>
      rw [clauses] at h
      cases h
      exact ⟨[], .nil, rfl⟩
  | case2 w words err hclause =>
      rw [clauses, hclause] at h
      cases h
  | case3 w words q rest hclause hlength ih =>
      rw [clauses, hclause] at h
      dsimp only at h
      rw [dif_pos hlength] at h
      obtain ⟨qs', hmore, rfl⟩ := Outcome.map_eq_ok_iff.mp h
      obtain ⟨ps, hps, rfl⟩ := ih hmore
      obtain ⟨ws, p, happ, rfl, hp⟩ := clause_sound hclause
      refine ⟨p :: ps, ?_, rfl⟩
      rw [happ]
      rcases hp with ⟨hfilter, hafter⟩ | hmaking
      · exact .filter hfilter hafter hps
      · exact .making hmaking hps
  | case4 w words q rest hclause hlength =>
      rw [clauses, hclause] at h
      dsimp only at h
      rw [dif_neg hlength] at h
      cases h

theorem clause_of_clauses {fs : Registry} {w : String} {words : List String} {qs : List Plan}
    (h : clauses fs (w :: words) = .ok qs) : ∃ found, clause fs w words = .ok found := by
  rw [clauses] at h
  cases hclause : clause fs w words with
  | error err =>
      rw [hclause] at h
      cases h
  | ok found => exact ⟨found, rfl⟩

/-- A clause that was read stands in front of the clauses that are read after it. -/
theorem clauses_cons {fs : Registry} {w : String} {tail rest : List String} {q : Plan}
    (hclause : clause fs w (tail ++ rest) = .ok (q, rest)) :
    clauses fs (w :: (tail ++ rest)) = (clauses fs rest).map (q :: ·) := by
  have hlength : rest.length < (tail ++ rest).length + 1 := by
    rw [List.length_append]
    omega
  rw [clauses, hclause]
  dsimp only
  rw [dif_pos hlength]

theorem clauses_complete {fs : Registry} {words : List String} {ps : List Plan}
    (h : QueryWords fs words ps) : clauses fs words = .ok (ps.map Plan.simplify) := by
  induction h with
  | nil => rw [clauses, List.map_nil]
  | filter hfilter hafter _ ih =>
      obtain ⟨w, tail, rfl, hclause⟩ := filterClause_complete fs hfilter hafter
      rw [List.cons_append, clauses_cons hclause, ih]
      rfl
  | making hmaking hrest ih =>
      obtain ⟨w, tail, rfl, hclause⟩ := makingClause_complete hmaking hrest.head
      rw [List.cons_append, clauses_cons hclause, ih, List.map_cons,
        MakingClause.simplify_eq hmaking]
      rfl

theorem parse_of_queryWords {fs : Registry} {words : List String} {ps : List Plan}
    (h : QueryWords fs words ps) :
    Plan.parse fs words = .ok (Plan.compound (ps.map Plan.simplify)).simplify := by
  rw [Plan.parse, clauses_complete h]
  rfl

/-! ### Tables and summaries that are whole queries -/

theorem parse_table {fs : Registry} {ws : List String} {es : List Expr}
    (hws : SomeValueWords fs ws es) :
    Plan.parse fs ("into" :: "table" :: ws) = .ok (.table (es.map (Expr.column fs))) := by
  have h := parse_of_queryWords (.making (.table .once hws) .nil)
  rwa [List.append_nil] at h

theorem parse_table_table {fs : Registry} {ws vs : List String} {es as : List Expr}
    (hws : SomeValueWords fs ws es) (hvs : SomeValueWords fs vs as) :
    Plan.parse fs ("into" :: "table" :: ws ++ "into" :: "table" :: vs)
      = .ok (.compound [.table (es.map (Expr.column fs)), .table (as.map (Expr.column fs))]) := by
  have h := parse_of_queryWords (.making (.table .once hws) (.making (.table .once hvs) .nil))
  rwa [List.append_nil] at h

theorem parse_summary {fs : Registry} {ks : List String} {es : List Expr}
    (hks : SomeValueWords fs ks es) :
    Plan.parse fs ("into" :: "summary" :: ks) = .ok (.group (es.map (Expr.column fs))) := by
  have h := parse_of_queryWords (.making (.group .once hks) .nil)
  rwa [List.append_nil] at h

theorem parse_calculate {fs : Registry} {ks cs : List String} {es as : List Expr}
    (hks : SomeValueWords fs ks es) (hcs : SomeValueWords fs cs as) :
    Plan.parse fs ("into" :: "summary" :: (ks ++ "calculate" :: cs))
      = .ok (.compound [.group (es.map (Expr.column fs)),
          .table ((es.map (Expr.column fs)).map passedOn ++ as.map (Expr.column fs))]) := by
  have h := parse_of_queryWords (.making (.summary .once hks hcs) .nil)
  rwa [List.append_nil] at h

end Parser

/-- Simplifying the parts of a compound first makes no difference. -/
theorem simplify_compound_map_simplify (ps : List Plan) :
    (Plan.compound (ps.map Plan.simplify)).simplify = (Plan.compound ps).simplify := by
  apply Plan.simplify_eq_of_steps_eq
  rw [Plan.steps, Plan.steps, Plan.stepsOf_map_simplify]

/-- The parser succeeds on exactly the queries of the grammar, and gives the
simplified compound of what the clauses mean, in order. -/
theorem parse_eq_ok_iff (fs : Registry) (words : List String) (plan : Plan) :
    Plan.parse fs words = .ok plan ↔
      ∃ plans, QueryWords fs words plans ∧ plan = (Plan.compound plans).simplify := by
  unfold Plan.parse
  rw [Outcome.map_eq_ok_iff]
  constructor
  · rintro ⟨qs, hqs, rfl⟩
    obtain ⟨ps, hps, rfl⟩ := Parser.clauses_sound hqs
    exact ⟨ps, hps, simplify_compound_map_simplify ps⟩
  · rintro ⟨ps, hps, rfl⟩
    exact ⟨_, Parser.clauses_complete hps, simplify_compound_map_simplify ps⟩

/-- A function that is none of the language: it puts the text of its argument into capitals. -/
def shout : Function where
  name := "shout"
  signatures := [⟨[.string], "Upper-cases its argument"⟩]
  run args e :=
    match args with
    | arg :: _ => (arg.read e).map fun v => .text v.display.toUpper
    | [] => .error (.expectingArguments "shout" .exactlyOne)

/-- Once the function is registered, it may be called. -/
theorem parse_eq_ok_iff_shout :
    Plan.parse (Registry.full.register shout) ["into", "table", "f.shout[h.name]"]
      = .ok (.table [⟨"shout-name", .call "shout" [.field "h.name"]⟩]) := by
  have hknown : (Registry.full.register shout).knows "shout" = true := by
    rw [Registry.knows, Registry.find?_register]
    rfl
  have hvalues : SomeValueWords (Registry.full.register shout) ["f.shout[h.name]"]
      [.call "shout" [.field "h.name"]] :=
    ⟨.cons ⟨rfl, List.forall_mem_singleton.mpr hknown⟩ .nil, List.cons_ne_nil _ _⟩
  exact (parse_eq_ok_iff _ _ _).mpr ⟨_, .making (.table .once hvalues) .nil, rfl⟩

end RecordQuery
