/-
# Words and the expressions that are written as words

A call is read from the words of this grammar and from no others (`Word.call_eq_ok_iff`):

    call      scheme . name
              scheme . name [ list ]
    scheme    f  func
    name      some characters, no opening bracket among them
    list      some characters, no closing bracket among them, that are values
              when they are cut at every comma

What stands between two commas has no closing bracket in it, so a call in that place has no
brackets: it is a name, and calls are never more than two deep (`Word.CallWord.args_bare`).
That is why `Word.bare` is enough to read an argument (`Word.call_eq_bare`).

An expression is written back as the word of its shape (`Expr.word`).  Of the word that it was
read from nothing is lost but the spelling of the scheme of calls (`Word.Shortens`), and the
word that is written is read as the same expression again (`Word.word_shortens`).
-/
import RecordQuery.Proofs.Query.Spelling
import Mathlib.Data.List.TakeWhile

namespace RecordQuery

/-! ## Writing -/

mutual

/-- The word of an expression. -/
def Expr.word : Expr → String
  | .literal text => "." ++ text
  | .field key => key
  | .call function [] => "f." ++ function
  | .call function (arg :: args) => Word.ofCall "f" function (arg.word :: argWords args)

/-- The words of the arguments of a call. -/
def argWords : List Expr → List String
  | [] => []
  | arg :: args => arg.word :: argWords args

end

theorem argWords_eq_map (args : List Expr) : argWords args = args.map Expr.word := by
  induction args with
  | nil => rfl
  | cons arg args ih => rw [argWords, ih, List.map_cons]

theorem Expr.word_call {function : String} {args : List Expr} (h : args ≠ []) :
    (Expr.call function args).word = Word.ofCall "f" function (args.map Expr.word) := by
  cases args with
  | nil => exact absurd rfl h
  | cons arg args => rw [Expr.word, argWords_eq_map, List.map_cons]

namespace Word

/-! ## The shape of a call -/

theorem exists_scheme_of_callBody? {word : String} {body : List Char}
    (h : callBody? word.toList = some body) :
    ∃ scheme ∈ callSchemes, word = scheme ++ "." ++ String.ofList body := by
  unfold callBody? at h
  split at h
  · rename_i body' hword
    cases h
    exact ⟨"f", by decide, by rw [← String.toList_inj, hword]; simp⟩
  · rename_i body' hword
    cases h
    exact ⟨"func", by decide, by rw [← String.toList_inj, hword]; simp⟩
  · cases h

theorem bracketed?_eq_some {rest inside : List Char} (h : bracketed? rest = some inside) :
    rest = inside ++ [']'] ∧ ']' ∉ inside ∧ inside ≠ [] := by
  rw [bracketed?] at h
  split at h
  · rename_i hboth
    cases h
    have happend := eq_append_of_dropWhile_ne hboth.1
    exact ⟨happend, notMem_takeWhile_ne _ _, hboth.2⟩
  · cases h

theorem callParts?_bare {scheme name : String} (hscheme : scheme ∈ callSchemes) (hne : name ≠ "")
    (hname : '[' ∉ name.toList) : callParts? (scheme ++ "." ++ name) = some (name, none) := by
  have hnil : name.toList ≠ [] := fun hnil => hne (String.toList_eq_nil_iff.mp hnil)
  have htake : name.toList.takeWhile (· ≠ '[') = name.toList :=
    List.takeWhile_eq_self_iff.mpr (ne_of_notMem hname)
  have hdrop : name.toList.dropWhile (· ≠ '[') = [] :=
    List.dropWhile_eq_nil_iff.mpr (ne_of_notMem hname)
  rw [callParts?, callBody?_scheme hscheme]
  show (if name.toList.takeWhile (· ≠ '[') = [] then none else _) = _
  rw [htake, if_neg hnil, hdrop, String.ofList_toList]

/-- The name ends at the first opening bracket, and the list at the first closing one. -/
theorem callParts?_eq_some {word name : String} {list? : Option (List Char)}
    (h : callParts? word = some (name, list?)) :
    ∃ scheme ∈ callSchemes, name ≠ "" ∧ '[' ∉ name.toList
      ∧ (list? = none ∧ word = scheme ++ "." ++ name
        ∨ ∃ list, list? = some list.toList ∧ list ≠ "" ∧ ']' ∉ list.toList
          ∧ word = scheme ++ "." ++ (name ++ "[" ++ list ++ "]")) := by
  obtain ⟨body, hbody, hparts⟩ := Option.bind_eq_some_iff.mp h
  obtain ⟨scheme, hscheme, rfl⟩ := exists_scheme_of_callBody? hbody
  have hname : '[' ∉ (String.ofList (body.takeWhile (· ≠ '['))).toList := by
    rw [String.toList_ofList]
    exact notMem_takeWhile_ne body '['
  dsimp only at hparts
  split at hparts
  · cases hparts
  · rename_i hne
    have hsome : String.ofList (body.takeWhile (· ≠ '[')) ≠ "" :=
      fun hempty => hne (String.ofList_eq_empty_iff.mp hempty)
    -- The name is all that there is, or a bracket follows it.
    split at hparts
    · rename_i hdrop
      cases hparts
      refine ⟨scheme, hscheme, hsome, hname, Or.inl ⟨rfl, ?_⟩⟩
      rw [List.takeWhile_eq_self_iff.mpr (List.dropWhile_eq_nil_iff.mp hdrop)]
    · rename_i rest hdrop
      obtain ⟨inside, hinside, hparts⟩ := Option.map_eq_some_iff.mp hparts
      cases hparts
      obtain ⟨rfl, hlist, hlistne⟩ := bracketed?_eq_some hinside
      refine ⟨scheme, hscheme, hsome, hname, Or.inr ⟨String.ofList inside, ?_, ?_, ?_, ?_⟩⟩
      · rw [String.toList_ofList]
      · exact fun hempty => hlistne (String.ofList_eq_empty_iff.mp hempty)
      · rw [String.toList_ofList]
        exact hlist
      · have hbody : body = body.takeWhile (· ≠ '[') ++ "[".toList ++ inside ++ "]".toList := by
          rw [List.append_assoc, List.append_assoc]
          exact eq_append_of_dropWhile_ne hdrop
        rw [← String.toList_inj]
        simp only [String.toList_append, String.toList_ofList]
        exact congrArg (scheme.toList ++ ".".toList ++ ·) hbody

/-! ## What a word stands for -/

/-- A word that is a value begins with a dot, or with the scheme of a key or of a call. -/
theorem classify_eq_value {call : String → Except ParseError Expr} {word : String} {e : Expr}
    (h : classify call word = .ok (.value e)) :
    (∃ text, word = "." ++ text ∧ e = .literal text)
      ∨ (∃ scheme name, (scheme ∈ Key.fieldSchemes ∨ scheme ∈ Key.sizeSchemes)
        ∧ word = scheme ++ "." ++ name ∧ e = .field word)
      ∨ ∃ scheme ∈ callSchemes, ∃ text, word = scheme ++ "." ++ text ∧ call word = .ok e := by
  -- Keywords come first and are no values; of the rest only a word with a dot is one.
  unfold classify at h
  cases hsplit : Key.split word with
  | mk first? text =>
      cases first? with
      | none =>
          rw [hsplit] at h
          dsimp only at h
          split_ifs at h <;> cases h
      | some first =>
          have hword : word = first ++ "." ++ text := Key.eq_of_split hsplit
          rw [hsplit] at h
          dsimp only at h
          split_ifs at h with hterminator hnot heq hcontains hicontains hkey hcall hliteral
          · cases h
          · cases h
          · cases h
          · cases h
          · cases h
          · cases h
            exact Or.inr (Or.inl ⟨first, text, hkey, hword, rfl⟩)
          · obtain ⟨e', he', h⟩ := Outcome.map_eq_ok_iff.mp h
            cases h
            have hscheme : first ∈ callSchemes :=
              List.mem_cons.mpr (hcall.imp_right List.mem_singleton.mpr)
            exact Or.inr (Or.inr ⟨first, hscheme, text, hword, he'⟩)
          · cases h
            rw [hliteral] at hword
            exact Or.inl ⟨text, hword, rfl⟩

/-- Only the words of a call are looked at as one. -/
theorem classify_congr {call call' : String → Except ParseError Expr} {word : String}
    (h : call word = call' word) : classify call word = classify call' word := by
  unfold classify
  rw [h]

theorem classify_literal (call : String → Except ParseError Expr) (text : String) :
    classify call ("." ++ text) = .ok (.value (.literal text)) := by
  have hsplit : Key.split ("." ++ text) = (some "", text) := @Key.split_scheme "" (by decide) text
  rw [classify, hsplit]
  rfl

/-- Without a closing bracket there is no list of arguments. -/
theorem call_eq_bare {word : String} (h : ']' ∉ word.toList) : call word = bare word := by
  rw [call, bare]
  cases hparts : callParts? word with
  | none => rfl
  | some parts =>
      obtain ⟨name, list?⟩ := parts
      cases list? with
      | none => rfl
      | some list =>
          obtain ⟨scheme, -, -, -, ⟨hnone, -⟩ | ⟨list', -, -, -, rfl⟩⟩ := callParts?_eq_some hparts
          · cases hnone
          · exact absurd (by simp) h

/-! ## Arguments -/

/-- The words of an argument: a call among them has no brackets. -/
inductive ArgumentWord : String → Expr → Prop
  | literal (text : String) : ArgumentWord ("." ++ text) (.literal text)
  | field {scheme : String} (name : String) :
      scheme ∈ Key.fieldSchemes ∨ scheme ∈ Key.sizeSchemes →
      ArgumentWord (scheme ++ "." ++ name) (.field (scheme ++ "." ++ name))
  | call {scheme name : String} : scheme ∈ callSchemes → name ≠ "" → '[' ∉ name.toList →
      ArgumentWord (scheme ++ "." ++ name) (.call name [])

theorem bare_eq_ok_iff {word : String} {e : Expr} :
    bare word = .ok e ↔ ∃ scheme ∈ callSchemes, ∃ name, name ≠ "" ∧ '[' ∉ name.toList
      ∧ word = scheme ++ "." ++ name ∧ e = .call name [] := by
  constructor
  · intro h
    rw [bare] at h
    split at h
    · rename_i name hparts
      cases h
      obtain ⟨scheme, hscheme, hne, hname, ⟨-, hword⟩ | ⟨list, hsome, -⟩⟩ := callParts?_eq_some hparts
      · exact ⟨scheme, hscheme, name, hne, hname, hword, rfl⟩
      · cases hsome
    · cases h
  · rintro ⟨scheme, hscheme, name, hne, hname, rfl, rfl⟩
    rw [bare, callParts?_bare hscheme hne hname]

theorem argumentWord_iff {word : String} {e : Expr} :
    ArgumentWord word e ↔ classify bare word = .ok (.value e) := by
  constructor
  · intro h
    cases h with
    | literal text => exact classify_literal bare text
    | field name hscheme => exact classify_key hscheme bare name
    | @call scheme name hscheme hne hname =>
        rw [classify_call hscheme, bare_eq_ok_iff.mpr ⟨scheme, hscheme, name, hne, hname, rfl, rfl⟩]
        rfl
  · intro h
    rcases classify_eq_value h with ⟨text, rfl, rfl⟩ | ⟨scheme, name, hscheme, rfl, rfl⟩
      | ⟨scheme, -, text, -, hbare⟩
    · exact .literal text
    · exact .field name hscheme
    · obtain ⟨scheme, hscheme, name, hne, hname, rfl, rfl⟩ := bare_eq_ok_iff.mp hbare
      exact .call hscheme hne hname

theorem argument_eq_ok_iff {word : String} {e : Expr} :
    argument word = .ok e ↔ ArgumentWord word e := by
  rw [argumentWord_iff, argument]
  cases classify bare word with
  | error err =>
      constructor
      · intro h
        cases h
      · intro h
        cases h
  | ok t => cases t <;> simp

/-- Between brackets, what is read as an argument is what is read as a value. -/
theorem identify_eq_value_iff {word : String} {e : Expr} (h : ']' ∉ word.toList) :
    identify word = .ok (.value e) ↔ ArgumentWord word e := by
  rw [argumentWord_iff, identify, classify_congr (call_eq_bare h)]

/-! ## Lists of arguments -/

/-- What stands between the commas of a text. -/
def pieces (text : String) : List String :=
  (text.toList.splitOn ',').map String.ofList

theorem of_mem_splitOn {c : Char} : ∀ {cs piece : List Char}, piece ∈ cs.splitOn c →
    c ∉ piece ∧ piece ⊆ cs
  | [], piece, h => by
      rw [List.splitOn_nil, List.mem_singleton] at h
      subst h
      exact ⟨List.not_mem_nil, List.Subset.refl []⟩
  | d :: cs, piece, h => by
      rw [List.splitOn_cons_eq_if_modifyHead] at h
      split at h
      · rcases List.mem_cons.mp h with rfl | h
        · exact ⟨List.not_mem_nil, List.nil_subset _⟩
        · obtain ⟨hpiece, hsub⟩ := of_mem_splitOn h
          exact ⟨hpiece, List.subset_cons_of_subset d hsub⟩
      · rename_i hd
        -- The character goes to the front of the first piece.
        obtain ⟨first, others, hsplit⟩ := List.exists_cons_of_ne_nil (List.splitOn_ne_nil c cs)
        rw [hsplit, List.modifyHead_cons] at h
        rcases List.mem_cons.mp h with rfl | h
        · obtain ⟨hfirst, hsub⟩ := of_mem_splitOn (hsplit ▸ List.mem_cons_self)
          refine ⟨fun hmem => ?_, List.cons_subset_cons d hsub⟩
          rcases List.mem_cons.mp hmem with rfl | hmem
          · exact hd (beq_self_eq_true _)
          · exact hfirst hmem
        · obtain ⟨hpiece, hsub⟩ := of_mem_splitOn (hsplit ▸ List.mem_cons_of_mem first h)
          exact ⟨hpiece, List.subset_cons_of_subset d hsub⟩

theorem bracket_notMem_pieces {text : String} (h : ']' ∉ text.toList) :
    ∀ piece ∈ pieces text, ']' ∉ piece.toList := by
  intro piece hpiece
  obtain ⟨cs, hcs, rfl⟩ := List.mem_map.mp hpiece
  rw [String.toList_ofList]
  exact fun hmem => h ((of_mem_splitOn hcs).2 hmem)

theorem intercalate_pieces (text : String) : ",".intercalate (pieces text) = text := by
  rw [← String.toList_inj, String.toList_intercalate, pieces, List.map_map]
  have hsame : String.toList ∘ String.ofList = id := funext fun _ => String.toList_ofList
  rw [hsame, List.map_id]
  exact List.intercalate_splitOn ','

/-- The pieces of a list between brackets are the arguments of a call. -/
theorem isCall_pieces {name list : String} (hne : name ≠ "") (hname : '[' ∉ name.toList)
    (hsome : list ≠ "") (hlist : ']' ∉ list.toList) : IsCall name (pieces list) where
  name_ne := hne
  name_notMem := hname
  args_ne hnil := List.splitOn_ne_nil _ _ (List.map_eq_nil_iff.mp hnil)
  text_ne hempty := hsome (by rw [← intercalate_pieces list, hempty]; rfl)
  arg_notMem arg harg := by
    refine ⟨?_, bracket_notMem_pieces hlist arg harg⟩
    obtain ⟨cs, hcs, rfl⟩ := List.mem_map.mp harg
    rw [String.toList_ofList]
    exact (of_mem_splitOn hcs).1

/-! ## Calls -/

/-- The words of a call, and what they stand for. -/
inductive CallWord : String → Expr → Prop
  | bare {scheme name : String} : scheme ∈ callSchemes → name ≠ "" → '[' ∉ name.toList →
      CallWord (scheme ++ "." ++ name) (.call name [])
  | bracketed {scheme name list : String} {args : List Expr} : scheme ∈ callSchemes → name ≠ "" →
      '[' ∉ name.toList → list ≠ "" → ']' ∉ list.toList →
      List.Forall₂ (fun piece arg => identify piece = .ok (.value arg)) (pieces list) args →
      CallWord (scheme ++ "." ++ (name ++ "[" ++ list ++ "]")) (.call name args)

/-- Between brackets the values of the pieces are the arguments. -/
theorem forall₂_argumentWord_iff {list : String} {args : List Expr} (hlist : ']' ∉ list.toList) :
    List.Forall₂ (fun piece arg => identify piece = .ok (.value arg)) (pieces list) args ↔
      List.Forall₂ ArgumentWord (pieces list) args := by
  have hpieces := bracket_notMem_pieces hlist
  constructor
  · intro h
    exact ((List.forall₂_and_left _ _).mpr ⟨hpieces, h⟩).imp
      fun _ _ hpiece => (identify_eq_value_iff hpiece.1).mp hpiece.2
  · intro h
    exact ((List.forall₂_and_left _ _).mpr ⟨hpieces, h⟩).imp
      fun _ _ hpiece => (identify_eq_value_iff hpiece.1).mpr hpiece.2

theorem call_bracketed {scheme name list : String} (hscheme : scheme ∈ callSchemes)
    (hne : name ≠ "") (hname : '[' ∉ name.toList) (hsome : list ≠ "") (hlist : ']' ∉ list.toList) :
    call (scheme ++ "." ++ (name ++ "[" ++ list ++ "]"))
      = ((pieces list).mapM argument).map (.call name) := by
  have h := call_ofCall hscheme (isCall_pieces hne hname hsome hlist)
  rwa [ofCall, intercalate_pieces] at h

theorem mapM_argument_eq_ok_iff {words : List String} {args : List Expr} :
    words.mapM argument = .ok args ↔ List.Forall₂ ArgumentWord words args := by
  rw [Outcome.mapM_eq_ok_iff]
  simp only [argument_eq_ok_iff]

/-- A call is read from the words of the grammar, and from no others. -/
theorem call_eq_ok_iff {word : String} {e : Expr} : call word = .ok e ↔ CallWord word e := by
  constructor
  · intro h
    cases hparts : callParts? word with
    | none =>
        rw [call, hparts] at h
        cases h
    | some parts =>
        obtain ⟨name, list?⟩ := parts
        obtain ⟨scheme, hscheme, hne, hname, ⟨rfl, hword⟩ | ⟨list, rfl, hsome, hlist, rfl⟩⟩ :=
          callParts?_eq_some hparts
        · rw [call, hparts] at h
          cases h
          rw [hword]
          exact .bare hscheme hne hname
        · rw [call_bracketed hscheme hne hname hsome hlist] at h
          obtain ⟨args, hargs, rfl⟩ := Outcome.map_eq_ok_iff.mp h
          exact .bracketed hscheme hne hname hsome hlist
            ((forall₂_argumentWord_iff hlist).mpr (mapM_argument_eq_ok_iff.mp hargs))
  · intro h
    cases h with
    | bare hscheme hne hname => rw [call, callParts?_bare hscheme hne hname]
    | bracketed hscheme hne hname hsome hlist hargs =>
        rw [call_bracketed hscheme hne hname hsome hlist,
          mapM_argument_eq_ok_iff.mpr ((forall₂_argumentWord_iff hlist).mp hargs)]
        rfl

/-- A call among the arguments of a call has none of its own. -/
theorem CallWord.args_bare {word name : String} {args : List Expr}
    (h : CallWord word (.call name args)) :
    ∀ (function : String) (inner : List Expr), .call function inner ∈ args → inner = [] := by
  intro function inner hmem
  cases h with
  | bare => cases hmem
  | bracketed _ _ _ _ hlist hargs =>
      obtain ⟨piece, -, hpiece⟩ :=
        Outcome.exists_of_mem_right ((forall₂_argumentWord_iff hlist).mp hargs) hmem
      cases hpiece
      rfl

/-! ## Back to the word -/

/-- The second word is the first with `f.` for `func.` in front of a call, and so in front of
the calls among its arguments. -/
inductive Shortens : String → String → Prop
  | operand {word : String} : (∀ scheme ∈ callSchemes, ∀ text, word ≠ scheme ++ "." ++ text) →
      Shortens word word
  | bare {scheme name : String} : scheme ∈ callSchemes → '[' ∉ name.toList →
      Shortens (scheme ++ "." ++ name) ("f." ++ name)
  | bracketed {scheme name : String} {args args' : List String} : scheme ∈ callSchemes →
      IsCall name args → List.Forall₂ Shortens args args' →
      Shortens (ofCall scheme name args) (ofCall "f" name args')

/-- The scheme of a key is no scheme of a call, and neither is the one of a literal. -/
theorem shortens_of_scheme {scheme : String}
    (h : scheme ∈ "" :: (Key.fieldSchemes ++ Key.sizeSchemes)) (name : String) :
    Shortens (scheme ++ "." ++ name) (scheme ++ "." ++ name) := by
  have hschemes : ∀ s ∈ "" :: (Key.fieldSchemes ++ Key.sizeSchemes),
      '.' ∉ s.toList ∧ s ∉ callSchemes := by decide
  have hcalls : ∀ s ∈ callSchemes, '.' ∉ s.toList := by decide
  refine .operand fun s hs text hword => (hschemes scheme h).2 ?_
  have hsplit := Key.split_scheme (hschemes scheme h).1 name
  rw [hword, Key.split_scheme (hcalls s hs)] at hsplit
  cases hsplit
  exact hs

theorem shortens_literal (text : String) : Shortens ("." ++ text) ("." ++ text) :=
  @shortens_of_scheme "" List.mem_cons_self text

theorem shortens_key {scheme : String} (h : scheme ∈ Key.fieldSchemes ∨ scheme ∈ Key.sizeSchemes)
    (name : String) : Shortens (scheme ++ "." ++ name) (scheme ++ "." ++ name) :=
  shortens_of_scheme (List.mem_cons_of_mem _ (List.mem_append.mpr h)) name

namespace ArgumentWord

variable {word : String} {e : Expr}

theorem shortens (h : ArgumentWord word e) : Shortens word e.word := by
  cases h with
  | literal text => exact shortens_literal text
  | field name hscheme => exact shortens_key hscheme name
  | call hscheme _ hname => exact .bare hscheme hname

/-- What is written for an argument is read as the same argument. -/
theorem written (h : ArgumentWord word e) : ArgumentWord e.word e := by
  cases h with
  | literal text => exact .literal text
  | field name hscheme => exact .field name hscheme
  | @call scheme name hscheme hne hname => exact @ArgumentWord.call "f" name (by decide) hne hname

theorem respelled (h : ArgumentWord word e) : BareRespelled word e.word := by
  cases h with
  | literal text => exact .key (.refl _)
  | field name hscheme => exact .key (.refl _)
  | @call scheme name hscheme _ _ => exact @BareRespelled.call scheme "f" name hscheme (by decide)

end ArgumentWord

/-- With its arguments written for it, a call with brackets is the word of its expression. -/
theorem word_bracketed {name : String} {args : List Expr} {words : List String}
    (hcall : IsCall name words) (hargs : List.Forall₂ ArgumentWord words args) :
    (Expr.call name args).word = ofCall "f" name (args.map Expr.word)
      ∧ List.Forall₂ Shortens words (args.map Expr.word)
      ∧ identify (ofCall "f" name (args.map Expr.word)) = .ok (.value (.call name args)) := by
  -- A list in brackets has a piece, so there are arguments to write and brackets around them.
  have hne : args ≠ [] := by
    rintro rfl
    exact hcall.args_ne (List.forall₂_nil_right_iff.mp hargs)
  have hwritten : List.Forall₂ ArgumentWord (args.map Expr.word) args := by
    rw [List.forall₂_map_left_iff, List.forall₂_same]
    intro arg harg
    obtain ⟨piece, -, hpiece⟩ := Outcome.exists_of_mem_right hargs harg
    exact hpiece.written
  have hwords : IsCall name (args.map Expr.word) :=
    hcall.respelled (List.forall₂_map_right_iff.mpr (hargs.imp fun _ _ => ArgumentWord.respelled))
  refine ⟨Expr.word_call hne, ?_, ?_⟩
  · exact List.forall₂_map_right_iff.mpr (hargs.imp fun _ _ => ArgumentWord.shortens)
  · rw [identify_ofCall (by decide) hwords, mapM_argument_eq_ok_iff.mpr hwritten]
    rfl

theorem identify_call_of_callWord {scheme text : String} {e : Expr} (hscheme : scheme ∈ callSchemes)
    (h : CallWord (scheme ++ "." ++ text) e) :
    identify (scheme ++ "." ++ text) = .ok (.value e) := by
  rw [identify, classify_call hscheme, call_eq_ok_iff.mpr h]
  rfl

/-- Writing the expression of a call gives the word again, up to the scheme of calls. -/
theorem CallWord.word_shortens {word : String} {e : Expr} (h : CallWord word e) :
    Shortens word e.word ∧ identify e.word = .ok (.value e) := by
  cases h with
  | @bare scheme name hscheme hne hname =>
      have hf : "f" ∈ callSchemes := by decide
      exact ⟨.bare hscheme hname, @identify_call_of_callWord "f" name _ hf (.bare hf hne hname)⟩
  | @bracketed scheme name list args hscheme hne hname hsome hlist hargs =>
      have hcall := isCall_pieces hne hname hsome hlist
      obtain ⟨hword, hshort, hread⟩ :=
        word_bracketed hcall ((forall₂_argumentWord_iff hlist).mp hargs)
      have hwhole : scheme ++ "." ++ (name ++ "[" ++ list ++ "]") = ofCall scheme name (pieces list) := by
        rw [ofCall, intercalate_pieces]
      rw [hword, hwhole]
      exact ⟨.bracketed hscheme hcall hshort, hread⟩

theorem word_shortens {word : String} {e : Expr} (h : identify word = .ok (.value e)) :
    Shortens word e.word ∧ identify e.word = .ok (.value e) := by
  rcases classify_eq_value h with ⟨text, rfl, rfl⟩ | ⟨scheme, name, hscheme, rfl, rfl⟩
    | ⟨scheme, -, text, -, hcall⟩
  · exact ⟨shortens_literal text, h⟩
  · exact ⟨shortens_key hscheme name, h⟩
  · exact (call_eq_ok_iff.mp hcall).word_shortens

/-- Calls are read from the words of the grammar and from no others, and are at most two deep.
A word that is a value is the word of its expression, but for `func.` in place of `f.`, and
what is written for the expression is read as the same expression. -/
theorem call_read_and_written (word : String) (e : Expr) :
    (call word = .ok e ↔ CallWord word e)
      ∧ (∀ (name : String) (args : List Expr), call word = .ok (.call name args) →
        ∀ (function : String) (inner : List Expr), .call function inner ∈ args → inner = [])
      ∧ (identify word = .ok (.value e) →
        Shortens word e.word ∧ identify e.word = .ok (.value e)) :=
  ⟨call_eq_ok_iff, fun _ _ h => (call_eq_ok_iff.mp h).args_bare, word_shortens⟩

/-- An opening bracket that stands in a literal is no bracket of a call. -/
theorem call_read_and_written_nested :
    CallWord "func.sum[func.count,.a[b]" (.call "sum" [.call "count" [], .literal "a[b"])
      ∧ (∀ (function : String) (inner : List Expr),
        .call function inner ∈ [Expr.call "count" [], .literal "a[b"] → inner = [])
      ∧ Shortens "func.sum[func.count,.a[b]" "f.sum[f.count,.a[b]"
      ∧ identify "f.sum[f.count,.a[b]"
        = .ok (.value (.call "sum" [.call "count" [], .literal "a[b"])) := by
  have hcall : call "func.sum[func.count,.a[b]"
      = .ok (.call "sum" [.call "count" [], .literal "a[b"]) := rfl
  have hvalue : identify "func.sum[func.count,.a[b]"
      = .ok (.value (.call "sum" [.call "count" [], .literal "a[b"])) := rfl
  have hword : Expr.word (.call "sum" [.call "count" [], .literal "a[b"])
      = "f.sum[f.count,.a[b]" := by decide +kernel
  obtain ⟨hread, hbare, hwritten⟩ := call_read_and_written "func.sum[func.count,.a[b]"
    (.call "sum" [.call "count" [], .literal "a[b"])
  exact ⟨hread.mp hcall, hbare "sum" _ hcall, hword ▸ hwritten hvalue⟩

end Word

end RecordQuery
