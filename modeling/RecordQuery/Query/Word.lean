/-
# Query words

A word is classified by what stands before its first dot.

    into  filter  where  sort  calculate      terminators, dotted or not
    not  eq  contains  icontains              dotted or not
    h. header. c. column. p. property.        fields, kept with their scheme
    sz. sized.
    f. func.                                  calls
    .text                                     literals

A call is a name, and arguments in brackets after it or no brackets at all.
The arguments are cut at every comma.  None of them contains a closing bracket,
so none can be a call with arguments of its own: `Word.bare` reads the calls that
an argument can be.
-/
import RecordQuery.Query.Error
import RecordQuery.Record.Key

namespace RecordQuery

namespace Word

/-! ## The shape of a call -/

/-- The words that start a clause or a part of one. -/
def terminators : List String :=
  ["into", "filter", "where", "sort", "calculate"]

/-- What follows the beginning of a call. -/
def callBody? : List Char → Option (List Char)
  | 'f' :: '.' :: body => some body
  | 'f' :: 'u' :: 'n' :: 'c' :: '.' :: body => some body
  | _ => none

/-- The text between an opening bracket, which has been read, and the closing one
at the very end; it is not empty and has no closing bracket in it. -/
def bracketed? (cs : List Char) : Option (List Char) :=
  let inside := cs.takeWhile (· ≠ ']')
  if cs.dropWhile (· ≠ ']') = [']'] ∧ inside ≠ [] then some inside else none

/-- The name of a call and the text of its arguments, if it has brackets. -/
def callParts? (word : String) : Option (String × Option (List Char)) := do
  let body ← callBody? word.toList
  let name := body.takeWhile (· ≠ '[')
  if name = [] then none
  else
    match body.dropWhile (· ≠ '[') with
    | [] => some (String.ofList name, none)
    | _ :: rest => (bracketed? rest).map fun args => (String.ofList name, some args)

/-! ## Classification -/

/-- Classify a word, with `call` reading the words that begin like a call. -/
def classify (call : String → Except ParseError Expr) (word : String) :
    Except ParseError Token :=
  let (first, text?) :=
    match Key.split word with
    | (some first, text) => (first, some text)
    | (none, whole) => (whole, none)
  if first ∈ terminators then .ok (.terminator word)
  else if first = "not" then .ok .not
  else if first = "eq" then .ok (.compare .equals)
  else if first = "contains" then .ok (.compare .contains)
  else if first = "icontains" then .ok (.compare .containsIgnoringCase)
  else
    match text? with
    | none => .error (.unknownToken word)
    | some text =>
        if first ∈ Key.fieldSchemes ∨ first ∈ Key.sizeSchemes then .ok (.value (.field word))
        else if first = "f" ∨ first = "func" then (call word).map .value
        else if first = "" then .ok (.value (.literal text))
        else .error (.unknownToken word)

/-- A call without brackets. -/
def bare (word : String) : Except ParseError Expr :=
  match callParts? word with
  | some (name, none) => .ok (.call name [])
  | _ => .error (.invalidFunctionExpression word)

/-- An argument of a call. -/
def argument (word : String) : Except ParseError Expr :=
  match classify bare word with
  | .ok (.value e) => .ok e
  | .ok _ => .error (.unknownToken word)
  | .error e => .error e

/-- A call with or without brackets. -/
def call (word : String) : Except ParseError Expr :=
  match callParts? word with
  | some (name, none) => .ok (.call name [])
  | some (name, some args) =>
      ((args.splitOn ',').mapM fun arg => argument (String.ofList arg)).map (.call name)
  | none => .error (.invalidFunctionExpression word)

/-- The token that a word is. -/
def identify (word : String) : Except ParseError Token :=
  classify call word

end Word

/-! ## Runs of words -/

/-- The tokens of at most `n` words, up to the first terminator, and the words
that are left. -/
def scan : Nat → List String → Except ParseError (List Token × List String)
  | 0, words => .ok ([], words)
  | _ + 1, [] => .ok ([], [])
  | n + 1, word :: words =>
      match Word.identify word with
      | .error e => .error e
      | .ok (.terminator _) => .ok ([], word :: words)
      | .ok token => (scan n words).map fun (tokens, rest) => (token :: tokens, rest)

/-- The tokens of all words up to the first terminator, and the words that are
left. -/
def scanAll (words : List String) : Except ParseError (List Token × List String) :=
  scan words.length words

/-- Every scanned word has become one token. -/
theorem length_scan : ∀ {n : Nat} {words : List String} {tokens : List Token}
    {rest : List String}, scan n words = .ok (tokens, rest) →
      tokens.length + rest.length = words.length
  | 0, words, _, _, h => by
      simp only [scan, Except.ok.injEq, Prod.mk.injEq] at h
      simp [← h.1, ← h.2]
  | _ + 1, [], _, _, h => by
      simp only [scan, Except.ok.injEq, Prod.mk.injEq] at h
      simp [← h.1, ← h.2]
  | n + 1, word :: words, _, _, h => by
      unfold scan at h
      split at h
      · cases h
      · simp only [Except.ok.injEq, Prod.mk.injEq] at h
        simp [← h.1, ← h.2]
      · cases hrest : scan n words with
        | error e => simp [hrest, Except.map] at h
        | ok found =>
            obtain ⟨tokens, rest⟩ := found
            have ih := length_scan hrest
            simp only [hrest, Except.map, Except.ok.injEq, Prod.mk.injEq] at h
            obtain ⟨rfl, rfl⟩ := h
            simp only [List.length_cons]
            omega

end RecordQuery
