/-
# Settings of a run

A setting is given once, as a text that has to make sense for it.  The input type
and the output format may come from the environment instead; what is given
counts, then the environment, then a standard value.
-/
import RecordQuery.Command.Request

namespace RecordQuery

/-! ## Names of settings -/

/-- A setting that takes a value. -/
inductive Setting where
  | input
  | inputType
  | outputType
  | output
  | maxWidth

namespace Setting

/-- The setting with a long name. -/
def ofName? (name : String) : Option Setting :=
  [("input", .input), ("input-type", .inputType), ("output-type", .outputType),
   ("output", .output), ("max-width", .maxWidth)].lookup name

/-- The setting with a letter. -/
def ofLetter? (letter : Char) : Option Setting :=
  [('i', .input), ('t', .outputType), ('o', .output)].lookup letter

end Setting

/-! ## Given settings -/

/-- The settings that have been given so far. -/
structure Settings where
  input : Option Stream := none
  inputType : Option InputType := none
  format : Option Format := none
  output : Option Stream := none
  maxWidth : Option Nat := none

/-- What the variables of the environment hold that stand in for settings. -/
structure Environment where
  inputType : Option String := none
  outputType : Option String := none

namespace Environment

/-- The variable that stands in for the input type. -/
def inputTypeVariable : String :=
  "TALLY_INPUT_TYPE"

/-- The variable that stands in for the output type. -/
def outputTypeVariable : String :=
  "TALLY_OUTPUT_TYPE"

end Environment

/-- The width that digits spell, possibly after a plus sign; it fits into 64 bits. -/
def width? (value : String) : Option Nat :=
  let digits :=
    match value.toList with
    | '+' :: cs => cs
    | cs => cs
  (Decimal.nat? digits).filter (· < UInt64.size)

namespace Settings

/-- The settings with one more; it must not have been given before, and the value
must make sense for it. -/
def give (s : Settings) : Setting → String → Option Settings
  | .input, value =>
      if s.input.isSome then none else some { s with input := some (.ofName value) }
  | .inputType, value =>
      if s.inputType.isSome then none
      else (InputType.ofName? value).map fun t => { s with inputType := some t }
  | .outputType, value =>
      if s.format.isSome then none
      else (Format.ofName? value).map fun f => { s with format := some f }
  | .output, value =>
      if s.output.isSome then none else some { s with output := some (.ofName value) }
  | .maxWidth, value =>
      if s.maxWidth.isSome then none
      else (width? value).map fun n => { s with maxWidth := some n }

/-- The value that was given; else the one that the environment names, and if it
names none, the standard value. -/
def orElse {α : Type} (given : Option α) (named : Option String)
    (ofName? : String → Option α) (standard : α) : Option α :=
  match given, named with
  | some a, _ => some a
  | none, some name => ofName? name
  | none, none => some standard

/-- The run with these settings and words. -/
def request (env : Environment) (s : Settings) (words : List String) : Option Request := do
  let inputType ← orElse s.inputType env.inputType InputType.ofName? .csv
  let format ← orElse s.format env.outputType Format.ofName? .table
  some (.run
    { words, inputType, format
      input := s.input.getD .standard
      output := s.output.getD .standard
      maxWidth := s.maxWidth })

end Settings

end RecordQuery
