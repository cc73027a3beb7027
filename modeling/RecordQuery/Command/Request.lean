/-
# Requests

What a command line asks for: to run a query, to show the plan of one, or to
print a text.  A run reads its table from a stream, turns it into the result of
the query and writes that, in one of the output formats, to a stream.
-/
import RecordQuery.Csv.Reader
import RecordQuery.Render.Output

namespace RecordQuery

/-- Where a run reads from or writes to. -/
inductive Stream where
  | standard
  | file (path : String)
deriving DecidableEq

/-- A single hyphen, and no name at all, stand for the standard stream. -/
def Stream.ofName (name : String) : Stream :=
  if name = "-" ∨ name = "" then .standard else .file name

/-- How the fields of the input are separated. -/
inductive InputType where
  | csv
  | tsv
deriving DecidableEq

namespace InputType

/-- The byte between two fields. -/
def delimiter : InputType → UInt8
  | .csv => Csv.comma
  | .tsv => Csv.tab

/-- The input type of a name. -/
def ofName? (name : String) : Option InputType :=
  [("csv", .csv), ("tsv", .tsv)].lookup name

end InputType

/-- The output format of a name. -/
def Format.ofName? (name : String) : Option Format :=
  [("csv", .csv), ("table", .table), ("json", .json), ("count", .count)].lookup name

/-- A run of a query. -/
structure RunOptions where
  words : List String
  input : Stream
  inputType : InputType
  format : Format
  output : Stream
  /-- The width of a cell of a grid, if it is limited. -/
  maxWidth : Option Nat

/-- What can be asked without any input. -/
inductive Question where
  /-- The plan of a query. -/
  | check (words : List String)
  /-- The list of the functions. -/
  | functions
  /-- The text about a topic, or the one that lists the topics. -/
  | manual (topic : Option String)
  /-- The version. -/
  | version
  /-- How requests are made. -/
  | help

/-- What a command line asks for. -/
inductive Request where
  | run (options : RunOptions)
  | ask (question : Question)

end RecordQuery
