/-
# Why a look-up, an evaluation or a write fails

Each constructor of `EvalError` is one cause and carries what its message
quotes; the wording is in `EvalError.message` alone.  A registered function may
fail from any of them, and in words of its own.
-/

namespace RecordQuery

/-- The three kinds of collection; each stores entries of its own kind only. -/
inductive Kind where
  | rows
  | groups
  | blanks
deriving DecidableEq

/-- How a kind of stored entry is called in a message. -/
def Kind.storedName : Kind → String
  | .rows => "tally_lang::data::table::Row"
  | .groups => "tally_lang::data::group::GroupRow"
  | .blanks => "tally_lang::data::nil::NilRow"

/-- What a function wants its argument list to be. -/
inductive Arity where
  | one
  | exactlyOne
  | valueAndName
  /-- In words of its own. -/
  | other (wording : String)
deriving DecidableEq

/-- The wording of an expected argument list. -/
def Arity.message : Arity → String
  | .one => "one argument"
  | .exactlyOne => "exactly one argument"
  | .valueAndName => "two arguments: a value and a name"
  | .other wording => wording

/-- Why a text is no point in time. -/
inductive DateFault where
  | noLayout
  | tooManyDigits
  | outOfRange
  /-- In words of the function's own. -/
  | other (wording : String)
deriving DecidableEq

/-- The wording of a date fault. -/
def DateFault.message : DateFault → String
  | .noLayout => "no known date layout matched"
  | .tooManyDigits => "number too large to fit in target type"
  | .outOfRange => "timestamp out of range"
  | .other wording => wording

/-- Why a query cannot be run to its end. -/
inductive EvalError where
  /-- The record has no value under the key. -/
  | keyNotFound (key : String)
  /-- No function of this name is registered. -/
  | unknownFunction (name : String)
  /-- The function was called with too few or too many arguments. -/
  | expectingArguments (function : String) (expected : Arity)
  /-- The function cannot use an argument of this type. -/
  | unsupportedType (function found : String)
  /-- The text given to the function is no date. -/
  | dateParse (function input : String) (fault : DateFault)
  /-- A collection of this kind was given an entry of another kind. -/
  | foreignEntry (kind : Kind)
  /-- A collection of this length was given an entry for a later place. -/
  | pastEnd (index length : Nat)
  /-- A function refuses its data, in words of its own. -/
  | invalidData (wording : String)
deriving DecidableEq

/-- The wording of an error. -/
def EvalError.message : EvalError → String
  | .keyNotFound key => "Key not found: " ++ key
  | .unknownFunction name => "Unknown function: f." ++ name
  | .expectingArguments function expected =>
      "f." ++ function ++ " is expecting " ++ expected.message
  | .unsupportedType function found =>
      "f." ++ function ++ " does not support " ++ found ++ " arguments"
  | .dateParse function input fault =>
      "f." ++ function ++ " could not parse date '" ++ input ++ "': " ++ fault.message
  | .foreignEntry kind =>
      "Invalid data: cannot store a foreign entry in a collection of " ++ kind.storedName
  | .pastEnd index length =>
      "Invalid data: entry index " ++ toString index
        ++ " is past the end of a collection of length " ++ toString length
  | .invalidData wording => "Invalid data: " ++ wording

end RecordQuery
