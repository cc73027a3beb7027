/-
# Spellings of a scheme

The schemes of fields, of sizes and of calls have several spellings each:

    h.  header.  c.  column.  p.  property.
    sz.  sized.
    f.  func.

Two words are spellings of one when they differ in these alone, at the front or at the front
of an argument of a call (`Word.Respelled`).  A key that has no name behind its scheme has
one spelling only, since it is the scheme that names its column then.

Spellings of one word become tokens that are the same up to the keys of their fields, or are
refused for the same reason, with the word as it is spelled in the message
(`Word.identify_alike`).  Spellings of one key ask for the same (`Lookup.ofKey_respelled`),
and expressions in them name the same column (`Expr.columnName_eq`), where the functions
called do not look at the spelling; no function of the language does
(`ignoresSpelling_ofBuiltins`).
-/
import RecordQuery.Proofs.Plan.Correspondence
import RecordQuery.Proofs.Query.Word

namespace RecordQuery

/-! ## Keys -/

/-- Two spellings of the scheme of fields, or of the scheme of sizes. -/
def Key.SameScheme (s t : String) : Prop :=
  s ∈ Key.fieldSchemes ∧ t ∈ Key.fieldSchemes ∨ s ∈ Key.sizeSchemes ∧ t ∈ Key.sizeSchemes

/-- One key in two spellings. -/
inductive Key.Respelled : String → String → Prop
  | refl (key : String) : Key.Respelled key key
  | scheme {s t name : String} : Key.SameScheme s t → name ≠ "" →
      Key.Respelled (s ++ "." ++ name) (t ++ "." ++ name)

theorem Key.SameScheme.symm {s t : String} (h : Key.SameScheme s t) : Key.SameScheme t s :=
  h.imp And.symm And.symm

theorem Key.SameScheme.left {s t : String} (h : Key.SameScheme s t) :
    s ∈ Key.fieldSchemes ∨ s ∈ Key.sizeSchemes :=
  h.imp And.left And.left

theorem Key.dot_notMem_scheme {s : String} (h : s ∈ Key.fieldSchemes ∨ s ∈ Key.sizeSchemes) :
    '.' ∉ s.toList := by
  have hschemes : ∀ s ∈ Key.fieldSchemes ++ Key.sizeSchemes, '.' ∉ s.toList := by decide
  exact hschemes s (List.mem_append.mpr h)

theorem Lookup.ofKey_respelled {key key' : String} (h : Key.Respelled key key') :
    Lookup.ofKey key = Lookup.ofKey key' := by
  cases h with
  | refl => rfl
  | @scheme s t name hst _ =>
      have hfield : ∀ s ∈ Key.fieldSchemes, s ∉ Key.sizeSchemes := by decide
      rw [Lookup.ofKey, Lookup.ofKey, Key.split_scheme (Key.dot_notMem_scheme hst.left),
        Key.split_scheme (Key.dot_notMem_scheme hst.symm.left)]
      dsimp only
      rcases hst with ⟨hs, ht⟩ | ⟨hs, ht⟩
      · rw [if_neg (hfield s hs), if_neg (hfield t ht), if_pos hs, if_pos ht]
      · rw [if_pos hs, if_pos ht]

/-- The same error, up to the spelling of the key that it quotes. -/
inductive EvalError.Alike : EvalError → EvalError → Prop
  | refl (err : EvalError) : EvalError.Alike err err
  | keyNotFound {key key' : String} : Key.Respelled key key' →
      EvalError.Alike (.keyNotFound key) (.keyNotFound key')

theorem Row.get_respelled (r : Row) {key key' : String} (h : Key.Respelled key key') :
    Outcome.Alike EvalError.Alike Eq (r.get key) (r.get key') := by
  rw [Row.get, Row.get, ← Lookup.ofKey_respelled h]
  cases Lookup.ofKey key with
  | size => exact .ok rfl
  | sizeOf name =>
      dsimp only
      cases r.headers.cell? r.values name with
      | some v => exact .ok rfl
      | none => exact .error (.keyNotFound h)
  | field name =>
      dsimp only
      cases r.headers.cell? r.values name with
      | some v => exact .ok rfl
      | none => exact .error (.keyNotFound h)
  | unknown => exact .error (.keyNotFound h)

/-- Expressions that are the same up to the spellings of their keys. -/
abbrev Expr.Respelled : Expr → Expr → Prop :=
  Expr.Corresponds Key.Respelled

theorem Expr.Respelled.refl (x : Expr) : x.Respelled x :=
  Expr.corresponds_self fun key _ => .refl key

/-- One row has the same answers for every spelling of a key. -/
theorem answerAlike_respelled : AnswerAlike Eq Key.Respelled EvalError.Alike where
  lookup_eq := Lookup.ofKey_respelled
  column _ _ := .refl _
  row := by
    rintro r _ key key' rfl hkey
    exact r.get_respelled hkey
  missing := .keyNotFound
  refl := .refl

/-! ## Functions that do not see the spelling -/

/-- The function means the same, and names the same column, however the keys in its arguments
are spelled. -/
structure Function.IgnoresSpelling (f : Function) : Prop where
  run : f.RunsAlike Eq EvalError.Alike
  columnName {names : List String} {args args' : List Arg} :
    List.Forall₂ (Reading.Alike Eq EvalError.Alike) (args.map Arg.read)
      (args'.map Arg.read) → f.columnName names args = f.columnName names args'

/-- No function of the registry sees how keys are spelled. -/
def Registry.IgnoresSpelling (fs : Registry) : Prop :=
  ∀ {name : String} {f : Function}, fs.find? name = some f → f.IgnoresSpelling

theorem Registry.IgnoresSpelling.runsAlike {fs : Registry} (h : fs.IgnoresSpelling) :
    fs.RunsAlike Eq EvalError.Alike :=
  fun hfind => (h hfind).run

theorem Builtin.columnName_alike (b : Builtin) {args args' : List Reading}
    (h : List.Forall₂ (Reading.Alike Eq EvalError.Alike) args args') :
    b.columnName args = b.columnName args' := by
  cases b with
  | rename =>
      unfold Builtin.columnName
      dsimp only
      rcases alike_givenName h with ⟨hnone, hnone'⟩ | ⟨x, x', hx, hx', halike⟩
      · rw [hnone, hnone']
      · rw [hx, hx']
        cases halike with
        | ok hv => rw [hv]
        | error _ => rfl
  | count | month | sum | year => rfl

theorem Registry.ignoresSpelling_ofBuiltins (bs : List Builtin) :
    (Registry.ofBuiltins bs).IgnoresSpelling := by
  intro name f hfind
  obtain ⟨b, -, rfl⟩ := exists_of_find?_ofBuiltins hfind
  exact ⟨b.run_alike .refl, b.columnName_alike⟩

/-! ## Names of columns -/

theorem argNames_eq_map (fs : Registry) (args : List Expr) :
    argNames fs args = args.map (Expr.columnName fs) := by
  induction args with
  | nil => rfl
  | cons arg args ih => rw [argNames, ih, List.map_cons]

/-- A field is named by its name, when it has one. -/
theorem columnName_scheme (fs : Registry) {scheme name : String} (hdot : '.' ∉ scheme.toList)
    (hname : name ≠ "") :
    (Expr.field (scheme ++ "." ++ name)).columnName fs = Text.lettersOnly name := by
  rw [Expr.columnName, Key.split_scheme hdot]
  split
  · rename_i hempty
    exact absurd (Prod.mk.inj hempty).2 hname
  · rename_i hsplit
    rw [(Prod.mk.inj hsplit).2]

theorem overridingName_respelled {fs : Registry} (hfs : fs.IgnoresSpelling) (function : String)
    {args args' : List Expr} (h : List.Forall₂ Expr.Respelled args args') (names : List String) :
    overridingName fs function args names = overridingName fs function args' names := by
  unfold overridingName
  cases hfind : fs.find? function with
  | none => rfl
  | some f =>
      exact (hfs hfind).columnName (answerAlike_respelled.evalArgs_alike hfs.runsAlike h)

/-- Expressions in two spellings name one column. -/
theorem Expr.columnName_eq {fs : Registry} (hfs : fs.IgnoresSpelling) {x x' : Expr} (h : x.Respelled x') :
    x.columnName fs = x'.columnName fs := by
  refine And.right (Expr.Corresponds.induct (P := fun x x' =>
    x.Respelled x' ∧ x.columnName fs = x'.columnName fs) ?_ ?_ ?_ h)
  · exact fun text => ⟨.literal text, rfl⟩
  · intro key key' hkey
    refine ⟨.field hkey, ?_⟩
    cases hkey with
    | refl => rfl
    | scheme hst hname =>
        rw [columnName_scheme fs (Key.dot_notMem_scheme hst.left) hname,
          columnName_scheme fs (Key.dot_notMem_scheme hst.symm.left) hname]
  · intro function args args' hargs
    have hexprs : List.Forall₂ Expr.Respelled args args' :=
      hargs.imp fun _ _ => And.left
    have hnames : args.map (Expr.columnName fs) = args'.map (Expr.columnName fs) := by
      rw [← List.forall₂_eq_eq_eq, List.forall₂_map_left_iff, List.forall₂_map_right_iff]
      exact hargs.imp fun _ _ => And.right
    refine ⟨.call hexprs, ?_⟩
    rw [Expr.columnName, Expr.columnName, argNames_eq_map, argNames_eq_map, hnames]
    rw [overridingName_respelled hfs function hexprs]

theorem Expr.column_respelled {fs : Registry} (hfs : fs.IgnoresSpelling) {x x' : Expr}
    (h : x.Respelled x') : (x.column fs).Corresponds Key.Respelled (x'.column fs) :=
  ⟨Expr.columnName_eq hfs h, h⟩

/-! ## Words -/

namespace Word

/-- One word in two spellings, whatever follows the scheme. -/
inductive BareRespelled : String → String → Prop
  | key {w w' : String} : Key.Respelled w w' → BareRespelled w w'
  | call {s t text : String} : s ∈ callSchemes → t ∈ callSchemes →
      BareRespelled (s ++ "." ++ text) (t ++ "." ++ text)

/-- One word in two spellings; a call may have its arguments respelled too. -/
inductive Respelled : String → String → Prop
  | bare {w w' : String} : BareRespelled w w' → Respelled w w'
  | call {s t name : String} {args args' : List String} : s ∈ callSchemes → t ∈ callSchemes →
      IsCall name args → List.Forall₂ BareRespelled args args' →
      Respelled (ofCall s name args) (ofCall t name args')

theorem Respelled.refl (w : String) : Respelled w w :=
  .bare (.key (.refl w))

/-- Spellings that differ have a scheme each, and the same behind it. -/
theorem BareRespelled.eq_or_schemes {w w' : String} (h : BareRespelled w w') :
    w = w' ∨ ∃ s t text, w = s ++ "." ++ text ∧ w' = t ++ "." ++ text
      ∧ s ∈ Key.fieldSchemes ++ Key.sizeSchemes ++ callSchemes
      ∧ t ∈ Key.fieldSchemes ++ Key.sizeSchemes ++ callSchemes := by
  cases h with
  | key h =>
      cases h with
      | refl => exact Or.inl rfl
      | @scheme s t name hst _ =>
          refine Or.inr ⟨s, t, name, rfl, rfl, ?_, ?_⟩
          · exact List.mem_append_left _ (List.mem_append.mpr hst.left)
          · exact List.mem_append_left _ (List.mem_append.mpr hst.symm.left)
  | @call s t text hs ht =>
      exact Or.inr ⟨s, t, text, rfl, rfl, List.mem_append_right _ hs, List.mem_append_right _ ht⟩

theorem dot_mem (scheme text : String) : '.' ∈ (scheme ++ "." ++ text).toList := by
  rw [String.toList_append, String.toList_append]
  exact List.mem_append_left _ (List.mem_append_right _ (List.mem_singleton.mpr rfl))

theorem mem_scheme {c : Char} (hdot : c ≠ '.') {scheme : String} (hscheme : c ∉ scheme.toList)
    {text : String} : c ∈ (scheme ++ "." ++ text).toList ↔ c ∈ text.toList := by
  rw [String.toList_append, String.toList_append, List.mem_append, List.mem_append]
  constructor
  · rintro ((h | h) | h)
    · exact absurd h hscheme
    · exact absurd (List.mem_singleton.mp h) hdot
    · exact h
  · exact Or.inr

/-- No spelling has a comma or a closing bracket in its scheme. -/
theorem BareRespelled.mem_iff {w w' : String} (h : BareRespelled w w') {c : Char}
    (hc : c = ',' ∨ c = ']') : c ∈ w.toList ↔ c ∈ w'.toList := by
  rcases h.eq_or_schemes with rfl | ⟨s, t, text, rfl, rfl, hs, ht⟩
  · exact Iff.rfl
  · have hclear : c ≠ '.'
        ∧ ∀ s ∈ Key.fieldSchemes ++ Key.sizeSchemes ++ callSchemes, c ∉ s.toList := by
      rcases hc with rfl | rfl
      · decide
      · decide
    rw [mem_scheme hclear.1 (hclear.2 s hs), mem_scheme hclear.1 (hclear.2 t ht)]

theorem BareRespelled.eq_empty {w : String} (h : BareRespelled w "") : w = "" := by
  rcases h.eq_or_schemes with h | ⟨s, t, text, -, htext, -, -⟩
  · exact h
  · have hdot := dot_mem t text
    rw [← htext] at hdot
    cases hdot

/-- With its arguments respelled, a call is a call still. -/
theorem IsCall.respelled {name : String} {args args' : List String} (h : IsCall name args)
    (hargs : List.Forall₂ BareRespelled args args') : IsCall name args' where
  name_ne := h.name_ne
  name_notMem := h.name_notMem
  args_ne := by
    rintro rfl
    exact h.args_ne (List.forall₂_nil_right_iff.mp hargs)
  text_ne := by
    rintro rfl
    obtain ⟨arg, rest, harg, hrest, rfl⟩ := List.forall₂_cons_right_iff.mp hargs
    rw [List.forall₂_nil_right_iff] at hrest
    exact h.text_ne (by rw [harg.eq_empty, hrest])
  arg_notMem := by
    intro arg' harg'
    obtain ⟨arg, harg, hspelled⟩ := Outcome.exists_of_mem_right hargs harg'
    obtain ⟨hcomma, hbracket⟩ := h.arg_notMem arg harg
    exact ⟨fun hmem => hcomma ((hspelled.mem_iff (Or.inl rfl)).mpr hmem),
      fun hmem => hbracket ((hspelled.mem_iff (Or.inr rfl)).mpr hmem)⟩

/-- Spellings that differ both have a dot in them, and so neither is a keyword. -/
theorem Respelled.eq_iff {w w' : String} (h : Respelled w w') {keyword : String}
    (hkeyword : '.' ∉ keyword.toList) : w = keyword ↔ w' = keyword := by
  have hdots : w = w' ∨ '.' ∈ w.toList ∧ '.' ∈ w'.toList := by
    cases h with
    | bare h =>
        rcases h.eq_or_schemes with heq | ⟨s, t, text, rfl, rfl, -, -⟩
        · exact Or.inl heq
        · exact Or.inr ⟨dot_mem s text, dot_mem t text⟩
    | call _ _ _ _ => exact Or.inr ⟨dot_mem _ _, dot_mem _ _⟩
  rcases hdots with rfl | ⟨hdot, hdot'⟩
  · exact Iff.rfl
  · constructor
    · rintro rfl
      exact absurd hdot hkeyword
    · rintro rfl
      exact absurd hdot' hkeyword

end Word

/-- The same error, up to the spelling of the words that it quotes. -/
inductive ParseError.Alike : ParseError → ParseError → Prop
  | refl (err : ParseError) : ParseError.Alike err err
  | unknownToken {w w' : String} : Word.Respelled w w' →
      ParseError.Alike (.unknownToken w) (.unknownToken w')
  | nothingFound {ws ws' : List String} : List.Forall₂ Word.Respelled ws ws' →
      ParseError.Alike (.nothingFound ws) (.nothingFound ws')
  | noProgress {ws ws' : List String} : List.Forall₂ Word.Respelled ws ws' →
      ParseError.Alike (.noProgress ws) (.noProgress ws')
  | unknownIntoTarget {w w' : String} : Word.Respelled w w' →
      ParseError.Alike (.unknownIntoTarget w) (.unknownIntoTarget w')
  | invalidFunctionExpression {w w' : String} : Word.Respelled w w' →
      ParseError.Alike (.invalidFunctionExpression w) (.invalidFunctionExpression w')
  | unknownExpression {w w' : String} : Word.Respelled w w' →
      ParseError.Alike (.unknownExpression w) (.unknownExpression w')

/-! ## Tokens -/

/-- Tokens that are the same up to the spellings of the keys in them. -/
inductive Token.Respelled : Token → Token → Prop
  | terminator (word : String) : Token.Respelled (.terminator word) (.terminator word)
  | not : Token.Respelled .not .not
  | compare (op : Comparison) : Token.Respelled (.compare op) (.compare op)
  | value {x x' : Expr} : x.Respelled x' → Token.Respelled (.value x) (.value x')

theorem Token.Respelled.refl : ∀ t : Token, t.Respelled t
  | .terminator word => .terminator word
  | .not => .not
  | .compare op => .compare op
  | .value x => .value (.refl x)

namespace Word

/-- Two readings of words as expressions end alike. -/
def ExprAlike : Except ParseError Expr → Except ParseError Expr → Prop :=
  Outcome.Alike ParseError.Alike Expr.Respelled

/-- Two readings of words as tokens end alike. -/
def TokenAlike : Except ParseError Token → Except ParseError Token → Prop :=
  Outcome.Alike ParseError.Alike Token.Respelled

theorem ExprAlike.refl (x : Except ParseError Expr) : ExprAlike x x :=
  (Outcome.Alike.refl ParseError.Alike.refl x).mono fun _ _ h => h ▸ Expr.Respelled.refl _

theorem TokenAlike.refl (x : Except ParseError Token) : TokenAlike x x :=
  (Outcome.Alike.refl ParseError.Alike.refl x).mono fun _ _ h => h ▸ Token.Respelled.refl _

theorem callParts?_respelled {s t : String} (hs : s ∈ callSchemes) (ht : t ∈ callSchemes)
    (text : String) : callParts? (s ++ "." ++ text) = callParts? (t ++ "." ++ text) := by
  rw [callParts?, callParts?, callBody?_scheme hs, callBody?_scheme ht]

theorem invalid_alike {s t : String} (hs : s ∈ callSchemes) (ht : t ∈ callSchemes)
    (text : String) : ExprAlike (.error (.invalidFunctionExpression (s ++ "." ++ text)))
      (.error (.invalidFunctionExpression (t ++ "." ++ text))) :=
  .error (.invalidFunctionExpression (.bare (.call hs ht)))

theorem bare_alike {s t : String} (hs : s ∈ callSchemes) (ht : t ∈ callSchemes) (text : String) :
    ExprAlike (bare (s ++ "." ++ text)) (bare (t ++ "." ++ text)) := by
  rw [bare, bare, ← callParts?_respelled hs ht]
  split
  · exact .refl _
  · exact invalid_alike hs ht text

theorem call_alike {s t : String} (hs : s ∈ callSchemes) (ht : t ∈ callSchemes) (text : String) :
    ExprAlike (call (s ++ "." ++ text)) (call (t ++ "." ++ text)) := by
  rw [call, call, ← callParts?_respelled hs ht]
  split
  · exact .refl _
  · exact .refl _
  · exact invalid_alike hs ht text

/-- Spellings are classified alike when what begins like a call is read alike. -/
theorem classify_alike {call : String → Except ParseError Expr}
    (hcall : ∀ {s t : String}, s ∈ callSchemes → t ∈ callSchemes → ∀ text,
      ExprAlike (call (s ++ "." ++ text)) (call (t ++ "." ++ text)))
    {w w' : String} (h : BareRespelled w w') : TokenAlike (classify call w) (classify call w') := by
  cases h with
  | key h =>
      cases h with
      | refl => exact .refl _
      | scheme hst hname =>
          rw [classify_key hst.left, classify_key hst.symm.left]
          exact .ok (.value (.field (.scheme hst hname)))
  | @call s t text hs ht =>
      rw [classify_call hs, classify_call ht]
      exact (hcall hs ht text).map fun _ _ => .value

theorem argument_alike {w w' : String} (h : BareRespelled w w') :
    ExprAlike (argument w) (argument w') := by
  have halike : TokenAlike (classify bare w) (classify bare w') := classify_alike bare_alike h
  rw [argument, argument]
  generalize classify bare w = x at halike ⊢
  generalize classify bare w' = y at halike ⊢
  cases halike with
  | error herr => exact .error herr
  | ok ht =>
      cases ht with
      | value hx => exact .ok hx
      | terminator | not | compare => exact .error (.unknownToken (.bare h))

/-- Spellings of one word become tokens that are the same up to their keys, or are refused for
the same reason. -/
theorem identify_alike {w w' : String} (h : Respelled w w') :
    TokenAlike (identify w) (identify w') := by
  cases h with
  | bare h => exact classify_alike call_alike h
  | call hs ht hcall hargs =>
      rw [identify_ofCall hs hcall, identify_ofCall ht (hcall.respelled hargs)]
      have halike := Outcome.Alike.mapM hargs fun _ _ => argument_alike
      exact (halike.map fun _ _ => .call).map fun _ _ => .value

end Word

end RecordQuery
