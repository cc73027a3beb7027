/-
# The functions of the language

Five functions are always there; a registry may hold more of them.

    count          members, or members with a truthy argument; 1 outside a group
    sum            clamped sum of the integers among the members' elements;
                   1 outside a group
    as             its first argument; the second, taken without any record,
                   must be a text, and names the column
    year, month    the part of the date that the only argument stands for

All of them are run on what their arguments mean, however these are spelled.
-/
import RecordQuery.Calendar.Resolve
import RecordQuery.Query.Function

namespace RecordQuery

/-! ## Aggregates -/

/-- Addition that stops at the limits of 64 bits. -/
def addClamped (m n : Int64) : Int64 :=
  Int64.ofIntClamp (m.toInt + n.toInt)

/-- The sum of the integers in a list, clamped after every addition. -/
def sumClamped (ns : List Int64) : Int64 :=
  ns.foldl addClamped 0

/-- The number of members, or of those for which the argument is truthy. -/
def countMembers (members : Collection) : List Reading → Except EvalError Value
  | [] => .ok (.ofSize members.size)
  | arg :: _ => do
      let vs ← members.entries.mapM arg
      .ok (.ofSize (vs.countP Value.isTruthy))

/-- The sum of the integers among the elements of what the members answer. -/
def sumMembers (members : Collection) (arg : Reading) : Except EvalError Value := do
  let vs ← members.entries.mapM arg
  .ok (.integer (sumClamped ((vs.flatMap Value.elements).filterMap Value.asInt)))

/-! ## Functions -/

/-- The functions of the language. -/
inductive Builtin where
  /-- A value in a column of a chosen name. -/
  | rename
  /-- The number of members, or of those with a truthy value. -/
  | count
  /-- The month of a date. -/
  | month
  /-- The sum over the members. -/
  | sum
  /-- The year of a date. -/
  | year
deriving DecidableEq

namespace Builtin

/-- Every function of the language, in the order of their names. -/
def all : List Builtin :=
  [.rename, .count, .month, .sum, .year]

/-- The name by which a function is called. -/
def name : Builtin → String
  | .rename => "as"
  | .count => "count"
  | .month => "month"
  | .sum => "sum"
  | .year => "year"

/-- The ways of calling a function. -/
def signatures : Builtin → List Signature
  | .rename => [⟨[.any, .string], "Renames the column to a specific name"⟩]
  | .count =>
      [⟨[], "Returns a count of rows represented by this row"⟩,
       ⟨[.any], "Returns the number of truthy results"⟩]
  | .month =>
      [⟨[.string], "Extracts the month (1-12) from a date string"⟩,
       ⟨[.integer], "Extracts the month (1-12) from Unix seconds"⟩]
  | .sum => [⟨[.any], "Sums the integer values of every grouped row"⟩]
  | .year =>
      [⟨[.string], "Extracts the year from a date string"⟩,
       ⟨[.integer], "Extracts the year from Unix seconds"⟩]

theorem mem_all (b : Builtin) : b ∈ all := by
  cases b <;> simp [all]

theorem name_inj {a b : Builtin} (h : a.name = b.name) : a = b := by
  cases a <;> cases b <;> first | rfl | exact absurd h (by decide)

end Builtin

/-- A part of the date that the only argument stands for. -/
def datePart (function : Builtin) (part : Moment → Int) (args : List Reading) : Reading :=
  fun e =>
    match args with
    | [arg] => do
        let v ← arg e
        match ← Calendar.resolve function.name v with
        | some m => .ok (.integer (Int64.ofInt (part m)))
        | none => .ok .nil
    | _ => .error (.expectingArguments function.name .exactlyOne)

/-- The name that a call of `as` gives to its column: its second argument, taken
without any record. -/
def givenName : List Reading → Option (Except EvalError Value)
  | _ :: name :: _ => some (name .blank)
  | _ => none

namespace Builtin

/-- The value of a call for a record. -/
def run (function : Builtin) (args : List Reading) : Reading := fun e =>
  match function with
  | .count =>
      match e.members? with
      | none => .ok (.ofSize 1)
      | some members => countMembers members args
  | .sum =>
      match args with
      | [] => .error (.expectingArguments function.name .one)
      | arg :: _ =>
          match e.members? with
          | none => .ok (.ofSize 1)
          | some members => sumMembers members arg
  | .rename =>
      match args with
      | [] => .error (.expectingArguments function.name .valueAndName)
      | value :: _ =>
          match givenName args with
          | none | some (.ok (.text _)) => value e
          | some (.ok other) => .error (.unsupportedType function.name other.typeName)
          | some (.error err) => .error err
  | .year => datePart function (fun m => m.date.year) args e
  | .month => datePart function (fun m => m.date.month) args e

/-- The name of the column that a call fills, if the function has a say in it. -/
def columnName (function : Builtin) (args : List Reading) : Option String :=
  match function with
  | .rename =>
      match givenName args with
      | some (.ok v) => some v.display
      | _ => none
  | .count | .month | .sum | .year => none

/-- A function of the language as one that can be registered. -/
def toFunction (b : Builtin) : Function where
  name := b.name
  signatures := b.signatures
  run args := b.run (args.map Arg.read)
  columnName _ args := b.columnName (args.map Arg.read)

end Builtin

/-! ## Registries of these functions -/

namespace Registry

/-- The registry of some functions of the language, registered one after the other. -/
def ofBuiltins (bs : List Builtin) : Registry :=
  bs.foldl (fun fs b => fs.register b.toFunction) .empty

/-- The registry of all the functions of the language. -/
def full : Registry :=
  ofBuiltins Builtin.all

/-- The registry has the function of the language under its name, and not another one. -/
def Provides (fs : Registry) (b : Builtin) : Prop :=
  fs.find? b.name = some b.toFunction

theorem find?_foldl_register (bs : List Builtin) : ∀ (fs : Registry) (name : String),
    (bs.foldl (fun fs b => fs.register b.toFunction) fs).find? name
      = match bs.find? (fun b => b.name == name) with
        | some b => some b.toFunction
        | none => fs.find? name := by
  induction bs with
  | nil => exact fun _ _ => rfl
  | cons b bs ih =>
      intro fs name
      rw [List.foldl_cons, ih, find?_register, List.find?_cons]
      by_cases h : name = b.name
      · subst h
        rw [if_pos (show b.name = b.toFunction.name from rfl), beq_self_eq_true]
        split
        · rename_i found hfound
          have hname : (found.name == b.name) = true :=
            List.find?_some (p := fun b' : Builtin => b'.name == b.name) hfound
          rw [Builtin.name_inj (beq_iff_eq.mp hname)]
        · rfl
      · rw [if_neg (show ¬ name = b.toFunction.name from h),
          beq_false_of_ne fun he => h he.symm]

/-- A registry of functions of the language answers with the one that has the name. -/
theorem find?_ofBuiltins (bs : List Builtin) (name : String) :
    (ofBuiltins bs).find? name = (bs.find? fun b => b.name == name).map Builtin.toFunction := by
  rw [ofBuiltins, find?_foldl_register]
  cases bs.find? fun b => b.name == name with
  | some b => rfl
  | none => rfl

theorem exists_of_find?_ofBuiltins {bs : List Builtin} {name : String} {f : Function}
    (h : (ofBuiltins bs).find? name = some f) : ∃ b : Builtin, b.name = name ∧ f = b.toFunction := by
  rw [find?_ofBuiltins, Option.map_eq_some_iff] at h
  obtain ⟨b, hb, rfl⟩ := h
  have hname : (b.name == name) = true :=
    List.find?_some (p := fun b' : Builtin => b'.name == name) hb
  exact ⟨b, beq_iff_eq.mp hname, rfl⟩

theorem provides_ofBuiltins {bs : List Builtin} {b : Builtin} (h : b ∈ bs) :
    (ofBuiltins bs).Provides b := by
  obtain ⟨found, hfound⟩ : ∃ found, bs.find? (fun b' => b'.name == b.name) = some found :=
    Option.isSome_iff_exists.mp (List.find?_isSome.mpr ⟨b, h, beq_self_eq_true b.name⟩)
  have hname : (found.name == b.name) = true :=
    List.find?_some (p := fun b' : Builtin => b'.name == b.name) hfound
  rw [Provides, find?_ofBuiltins, hfound, Builtin.name_inj (beq_iff_eq.mp hname)]
  rfl

theorem provides_full (b : Builtin) : full.Provides b :=
  provides_ofBuiltins b.mem_all

end Registry

end RecordQuery
