/-
# Functions that a query may call

A function has a name, the ways of calling it, which the manual lists, what a call
of it comes to, and, for some functions, the name of the column that a call fills.
It is handed its arguments as they stand in the query and with what they mean, so
that an aggregate can read its argument for every member of a group.

A registry holds functions, no two under one name: to register a function replaces
an earlier one of its name.  It answers by name and lists its functions in the order
of their names.
-/
import RecordQuery.Query.Expr
import RecordQuery.Record.Collection
import RecordQuery.Text.Quoted

namespace RecordQuery

/-! ## Signatures -/

/-- The type of an argument, as listed in the manual. -/
inductive ArgType where
  | any
  | string
  | integer
deriving DecidableEq

/-- The word for an argument type. -/
def ArgType.name : ArgType → String
  | .any => "any"
  | .string => "string"
  | .integer => "integer"

/-- One way of calling a function. -/
structure Signature where
  args : List ArgType
  description : String

/-- The call of a function called `name` with these arguments. -/
def Signature.usage (s : Signature) (name : String) : String :=
  if s.args.isEmpty then "f." ++ name
  else "f." ++ name ++ "[" ++ ",".intercalate (s.args.map ArgType.name) ++ "]"

/-! ## Functions -/

/-- What an expression means: a value for every record, or why there is none. -/
abbrev Reading := Entry → Except EvalError Value

/-- An argument of a call: as it stands in the query, and what it means. -/
structure Arg where
  expr : Expr
  read : Reading

/-- A function that a query may call. -/
structure Function where
  /-- The name by which it is called. -/
  name : String
  /-- The ways of calling it. -/
  signatures : List Signature
  /-- What a call with these arguments means. -/
  run : List Arg → Reading
  /-- The name of the column that a call fills, where the function has a say in it.
  It is told the names that its arguments would give to columns. -/
  columnName : (names : List String) → List Arg → Option String := fun _ _ => none

/-! ## Registries -/

/-- Functions under their names. -/
structure Registry where
  functions : List Function
  nodup_names : (functions.map Function.name).Nodup

namespace Registry

/-- No functions. -/
def empty : Registry :=
  ⟨[], .nil⟩

/-- The registry with one more function, in place of an earlier one of its name. -/
def register (fs : Registry) (f : Function) : Registry where
  functions := f :: fs.functions.filter fun g => g.name != f.name
  nodup_names := by
    rw [List.map_cons, List.nodup_cons]
    constructor
    · intro hmem
      obtain ⟨g, hg, hname⟩ := List.mem_map.mp hmem
      have hne : (g.name != f.name) = true := (List.mem_filter.mp hg).2
      exact bne_iff_ne.mp hne hname
    · exact fs.nodup_names.sublist (List.filter_sublist.map Function.name)

/-- The function that is called by a name. -/
def find? (fs : Registry) (name : String) : Option Function :=
  fs.functions.find? fun f => f.name == name

/-- Is there a function of this name? -/
def knows (fs : Registry) (name : String) : Bool :=
  (fs.find? name).isSome

/-- The functions in the order of their names. -/
def sorted (fs : Registry) : List Function :=
  fs.functions.mergeSort fun f g => f.name ≤ g.name

/-- The names of the functions as a set. -/
def listing (fs : Registry) : String :=
  "\x7b" ++ ", ".intercalate (fs.sorted.map fun f => Text.quoted f.name) ++ "\x7d"

/-- A function that is registered is found under its name, and every other name leads to
what it led to before. -/
theorem find?_register (fs : Registry) (f : Function) (name : String) :
    (fs.register f).find? name = if name = f.name then some f else fs.find? name := by
  have hcons : (fs.register f).find? name = match f.name == name with
      | true => some f
      | false => (fs.functions.filter fun g => g.name != f.name).find? fun g => g.name == name :=
    List.find?_cons
  rw [hcons]
  by_cases h : name = f.name
  · subst h
    rw [if_pos rfl, beq_self_eq_true]
  · have hne : (f.name == name) = false := beq_false_of_ne fun he => h he.symm
    have hsame : ∀ g : Function,
        decide ((g.name != f.name) = true ∧ (g.name == name) = true) = (g.name == name) := by
      intro g
      by_cases hg : g.name = name
      · simp [hg, h]
      · simp [hg]
    simp only [hne, List.find?_filter, hsame, if_neg h]
    rfl

end Registry

end RecordQuery
