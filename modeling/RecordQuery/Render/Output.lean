/-
# Output formats

A collection is rendered as comma-separated values, as a grid, as a JSON
document with one object for every record, or as the number of its records.
An object has one member for every column name, with what the record answers to
the key of that column; no answer is null.
-/
import RecordQuery.Csv.Writer
import RecordQuery.Render.Grid
import RecordQuery.Value.Json

namespace RecordQuery

/-- A format in which a collection is rendered. -/
inductive Format where
  | csv
  | table
  | json
  | count
deriving DecidableEq, Inhabited

/-- What a record answers for a column, null when it does not answer. -/
def Entry.member (e : Entry) (name : String) : Json :=
  match e.get (Key.column name) with
  | .ok v => v.toJson
  | .error _ => .null

/-- The object of a record. -/
def Entry.toObject (e : Entry) : Json.Object :=
  e.columnNames.foldl (fun o name => o.insert name (e.member name)) []

/-- The document of a collection: an array with an object for every record. -/
def Collection.toDocument (c : Collection) : Json :=
  .array (c.entries.map fun e => .object e.toObject)

end RecordQuery
