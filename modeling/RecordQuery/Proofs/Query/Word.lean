/-
# Words for fields and calls

A field word is a scheme, a dot and a name.  The name may be of any characters: only the
first dot is looked at, so a keyword in the name, another dot or a bracket does not count
(`Word.classify_key`).

    f.name
    f.name[argument,argument]

The name of a call ends at the first opening bracket and its arguments at the first closing
one, which must be the last character; they are cut at every comma.  So a name and arguments
that keep clear of these characters (`Word.IsCall`) are what is read from the word that is
made of them (`Word.identify_ofCall`).
-/
import RecordQuery.Proofs.Query.Grammar
import RecordQuery.Proofs.Record.Column
import RecordQuery.Query.Token

namespace RecordQuery

namespace Word

/-! ## Fields -/

/-- A field word stands for the field, whatever its name; so does the word of a size. -/
theorem classify_key {scheme : String} (h : scheme ∈ Key.fieldSchemes ∨ scheme ∈ Key.sizeSchemes)
    (call : String → Except ParseError Expr) (name : String) :
    classify call (scheme ++ "." ++ name) = .ok (.value (.field (scheme ++ "." ++ name))) := by
  have hscheme : ∀ s ∈ Key.fieldSchemes ++ Key.sizeSchemes, '.' ∉ s.toList ∧ s ∉ terminators
      ∧ s ≠ "not" ∧ s ≠ "eq" ∧ s ≠ "contains" ∧ s ≠ "icontains" := by decide
  obtain ⟨hdot, hterminator, hnot, heq, hcontains, hicontains⟩ :=
    hscheme scheme (List.mem_append.mpr h)
  rw [classify, Key.split_scheme hdot]
  dsimp only
  rw [if_neg hterminator, if_neg hnot, if_neg heq, if_neg hcontains, if_neg hicontains,
    if_pos h]

theorem identify_header (name : String) :
    identify ("h." ++ name) = .ok (.value (.field ("h." ++ name))) :=
  @classify_key "h" (by decide) call name

/-- A field word is a value, whatever functions there are. -/
theorem someValueWords_header (fs : Registry) (name : String) :
    Grammar.SomeValueWords fs ["h." ++ name] [.field ("h." ++ name)] :=
  ⟨.cons ⟨identify_header name, fun _ h => absurd h List.not_mem_nil⟩ .nil, List.cons_ne_nil _ _⟩

theorem argument_header (name : String) : argument ("h." ++ name) = .ok (.field ("h." ++ name)) := by
  have hclass : classify bare ("h." ++ name) = .ok (.value (.field ("h." ++ name))) :=
    @classify_key "h" (by decide) bare name
  rw [argument, hclass]

/-! ## Calls -/

/-- The spellings of the scheme of calls. -/
def callSchemes : List String :=
  ["f", "func"]

/-- The word of a call with arguments. -/
def ofCall (scheme name : String) (args : List String) : String :=
  scheme ++ "." ++ (name ++ "[" ++ ",".intercalate args ++ "]")

/-- The name and the arguments keep clear of the characters around them, and neither the name
nor all that stands between the brackets is empty. -/
structure IsCall (name : String) (args : List String) : Prop where
  name_ne : name ≠ ""
  name_notMem : '[' ∉ name.toList
  args_ne : args ≠ []
  text_ne : args ≠ [""]
  arg_notMem : ∀ arg ∈ args, ',' ∉ arg.toList ∧ ']' ∉ arg.toList

theorem callBody?_scheme {scheme : String} (h : scheme ∈ callSchemes) (body : String) :
    callBody? (scheme ++ "." ++ body).toList = some body.toList := by
  rw [String.toList_append, String.toList_append]
  rcases List.mem_cons.mp h with rfl | h
  · rfl
  · rw [List.mem_singleton.mp h]
    rfl

theorem bracketed?_append {inside : List Char} (h : ']' ∉ inside) (hne : inside ≠ []) :
    bracketed? (inside ++ [']']) = some inside := by
  rw [bracketed?, takeWhile_ne_append h, dropWhile_ne_append h]
  exact if_pos ⟨rfl, hne⟩

theorem forall_mem_intercalate {p : Char → Prop} {separator : List Char}
    (hseparator : ∀ c ∈ separator, p c) :
    ∀ {parts : List (List Char)}, (∀ part ∈ parts, ∀ c ∈ part, p c) →
      ∀ c ∈ separator.intercalate parts, p c
  | [], _ => fun _ hc => absurd hc List.not_mem_nil
  | [part], h => by
      rw [List.intercalate_singleton]
      exact h part List.mem_cons_self
  | part :: part' :: parts, h => by
      obtain ⟨hpart, hparts⟩ := List.forall_mem_cons.mp h
      rw [List.intercalate_cons_cons, List.forall_mem_append, List.forall_mem_append]
      exact ⟨⟨hpart, hseparator⟩, forall_mem_intercalate hseparator hparts⟩

theorem notMem_intercalate {c : Char} {separator : List Char} (hseparator : c ∉ separator)
    {parts : List (List Char)} (h : ∀ part ∈ parts, c ∉ part) : c ∉ separator.intercalate parts :=
  fun hmem => @forall_mem_intercalate (· ≠ c) separator (fun _ ha hac => hseparator (hac ▸ ha)) parts
    (fun part hpart _ ha hac => h part hpart (hac ▸ ha)) c hmem rfl

namespace IsCall

variable {name : String} {args : List String}

theorem text_ne_nil (h : IsCall name args) : [','].intercalate (args.map String.toList) ≠ [] := by
  match args, h with
  | [], h => exact absurd rfl h.args_ne
  | [arg], h =>
      rw [List.map_singleton, List.intercalate_singleton]
      intro hnil
      exact h.text_ne (by rw [String.toList_eq_nil_iff.mp hnil])
  | arg :: arg' :: args, _ =>
      rw [List.map_cons, List.map_cons, List.intercalate_cons_cons]
      simp

theorem bracket_notMem_text (h : IsCall name args) :
    ']' ∉ [','].intercalate (args.map String.toList) := by
  refine notMem_intercalate (by decide) fun part hpart => ?_
  obtain ⟨arg, harg, rfl⟩ := List.mem_map.mp hpart
  exact (h.arg_notMem arg harg).2

/-- The text between the brackets is cut into the arguments again. -/
theorem splitOn_text (h : IsCall name args) :
    ([','].intercalate (args.map String.toList)).splitOn ',' = args.map String.toList := by
  refine List.splitOn_intercalate ',' (fun part hpart => ?_) ?_
  · obtain ⟨arg, harg, rfl⟩ := List.mem_map.mp hpart
    exact (h.arg_notMem arg harg).1
  · exact fun hnil => h.args_ne (List.map_eq_nil_iff.mp hnil)

end IsCall

theorem callParts?_bracketed {scheme name list : String} (hscheme : scheme ∈ callSchemes)
    (hne : name ≠ "") (hname : '[' ∉ name.toList) (hsome : list ≠ "") (hlist : ']' ∉ list.toList) :
    callParts? (scheme ++ "." ++ (name ++ "[" ++ list ++ "]")) = some (name, some list.toList) := by
  have hbody : (name ++ "[" ++ list ++ "]").toList
      = name.toList ++ '[' :: (list.toList ++ [']']) := by
    rw [String.toList_append, String.toList_append, String.toList_append, List.append_assoc,
      List.append_assoc]
    rfl
  have hnil : name.toList ≠ [] := fun hnil => hne (String.toList_eq_nil_iff.mp hnil)
  have hinside : list.toList ≠ [] := fun hnil => hsome (String.toList_eq_nil_iff.mp hnil)
  rw [callParts?, callBody?_scheme hscheme, hbody]
  show (if (name.toList ++ '[' :: _).takeWhile (· ≠ '[') = [] then none else _) = _
  rw [takeWhile_ne_append hname, if_neg hnil, dropWhile_ne_append hname]
  dsimp only
  rw [bracketed?_append hlist hinside, Option.map_some, String.ofList_toList]

theorem callParts?_ofCall {scheme name : String} {args : List String} (hscheme : scheme ∈ callSchemes)
    (h : IsCall name args) :
    callParts? (ofCall scheme name args)
      = some (name, some ([','].intercalate (args.map String.toList))) := by
  have htext : (",".intercalate args).toList = [','].intercalate (args.map String.toList) :=
    String.toList_intercalate
  rw [ofCall, ← htext]
  apply callParts?_bracketed hscheme h.name_ne h.name_notMem
  · intro hempty
    exact h.text_ne_nil (htext.symm.trans (String.toList_eq_nil_iff.mpr hempty))
  · rw [htext]
    exact h.bracket_notMem_text

/-- A call is read argument by argument. -/
theorem call_ofCall {scheme name : String} {args : List String} (hscheme : scheme ∈ callSchemes)
    (h : IsCall name args) :
    call (ofCall scheme name args) = (args.mapM argument).map (.call name) := by
  have hargs : ((args.map String.toList).mapM fun arg => argument (String.ofList arg))
      = args.mapM argument := by
    rw [List.mapM_map]
    simp only [Function.comp_def, String.ofList_toList]
  rw [call, callParts?_ofCall hscheme h]
  dsimp only
  rw [h.splitOn_text, hargs]

/-- A word that begins with the scheme of calls stands for what `call` makes of it. -/
theorem classify_call {scheme : String} (h : scheme ∈ callSchemes)
    (call : String → Except ParseError Expr) (text : String) :
    classify call (scheme ++ "." ++ text) = (call (scheme ++ "." ++ text)).map .value := by
  have hdot : ∀ s ∈ callSchemes, '.' ∉ s.toList := by decide
  rw [classify, Key.split_scheme (hdot scheme h)]
  rcases List.mem_cons.mp h with rfl | h
  · rfl
  · rw [List.mem_singleton.mp h]
    rfl

theorem identify_ofCall {scheme name : String} {args : List String}
    (hscheme : scheme ∈ callSchemes) (h : IsCall name args) :
    identify (ofCall scheme name args) = ((args.mapM argument).map (.call name)).map .value := by
  rw [← call_ofCall hscheme h, identify]
  exact classify_call hscheme call _

/-- A call with one argument, in which there is no comma and no closing bracket. -/
theorem identify_call {name text : String} {e : Expr} (hname : '[' ∉ name.toList)
    (hne : name ≠ "") (hbracket : ']' ∉ text.toList) (hsome : text ≠ "")
    (hcomma : ',' ∉ text.toList) (harg : argument text = .ok e) :
    identify ("f." ++ (name ++ "[" ++ text ++ "]")) = .ok (.value (.call name [e])) := by
  have hcall : IsCall name [text] :=
    ⟨hne, hname, List.cons_ne_nil _ _, fun h => hsome (List.cons.inj h).1,
      List.forall_mem_singleton.mpr ⟨hcomma, hbracket⟩⟩
  have hword : "f." ++ (name ++ "[" ++ text ++ "]") = ofCall "f" name [text] := by
    rw [ofCall, String.intercalate_singleton]
    rfl
  rw [hword, identify_ofCall (by decide) hcall, List.mapM_cons, harg]
  rfl

end Word

end RecordQuery
