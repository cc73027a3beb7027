/-
# Writing comma-separated values

A field is quoted when it contains a comma, a quote or a line end, and a quote
inside quotes is written twice.  A record without any character would be read
as a blank line, so it is written as an empty quoted field.

A writer refuses a record with another number of fields than the first one, unless
it is flexible.
-/
import RecordQuery.Record.Collection

namespace RecordQuery.Csv

/-- Can the character stand in a field only inside quotes? -/
def needsQuotes (c : Char) : Bool :=
  c ∈ [',', '"', '\r', '\n']

/-- A character inside quotes. -/
def quotedChar (c : Char) : List Char :=
  if c = '"' then ['"', '"'] else [c]

/-- A field as it is written. -/
def writeField (field : List Char) : List Char :=
  if field.any needsQuotes then '"' :: field.flatMap quotedChar ++ ['"'] else field

/-- A record as it is written, up to the end of its line. -/
def writeRecord (fields : List (List Char)) : List Char :=
  let line := List.intercalate [','] (fields.map writeField)
  (if line = [] then ['"', '"'] else line) ++ ['\n']

/-! ## Writers -/

/-- Why a record is not written: the records before it have `expected` fields. -/
inductive WriteError where
  | unequalLengths (expected found : Nat)
deriving DecidableEq

/-- The wording of an error. -/
def WriteError.message : WriteError → String
  | .unequalLengths expected found =>
      s!"CSV error: found record with {found} fields, "
        ++ s!"but the previous record has {expected} fields"

/-- What is asked of the records of one text: nothing, or the number of fields of the first
one, once there is one. -/
structure Writer where
  flexible : Bool
  expected : Option Nat := none

/-- The writer after a record, which it may refuse. -/
def Writer.accept (writer : Writer) (fields : List (List Char)) : Except WriteError Writer :=
  if writer.flexible then .ok writer
  else
    match writer.expected with
    | none => .ok { writer with expected := some fields.length }
    | some expected =>
        if fields.length = expected then .ok writer
        else .error (.unequalLengths expected fields.length)

/-! ## Collections -/

/-- The records that a collection is written as: the column names of its first record, then
the texts of every record.  An empty collection has none. -/
def records (c : Collection) : List (List (List Char)) :=
  match c.entries with
  | [] => []
  | e :: es =>
      e.columnNames.map String.toList :: (e :: es).map fun e => e.cells.map String.toList

/-- A collection as it is written. -/
def write (c : Collection) : List Char :=
  (records c).flatMap writeRecord

end RecordQuery.Csv
