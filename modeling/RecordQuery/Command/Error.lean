/-
# Why a request fails

Each constructor of `CommandError` is one cause and carries what its message
quotes; the wording is in `CommandError.message` alone.  A fault of the file
system is described in the system's own words.
-/
import RecordQuery.Csv.Reader
import RecordQuery.Csv.Writer
import RecordQuery.Query.Error

namespace RecordQuery

/-- Why a file cannot be opened, read or made: the system's description and number
of the fault. -/
structure FileFault where
  description : String
  code : Nat
deriving DecidableEq

namespace FileFault

/-- There is no such file. -/
def notFound : FileFault := ⟨"No such file or directory", 2⟩

/-- The path goes through something that is no directory. -/
def notDirectory : FileFault := ⟨"Not a directory", 20⟩

/-- The path leads to a directory. -/
def isDirectory : FileFault := ⟨"Is a directory", 21⟩

/-- The path, or a name in it, has more bytes than the system allows. -/
def tooLong : FileFault := ⟨"File name too long", 36⟩

/-- The wording of a fault. -/
def message (fault : FileFault) : String :=
  fault.description ++ " (os error " ++ toString fault.code ++ ")"

end FileFault

/-- Why a request fails. -/
inductive CommandError where
  /-- The words are no query. -/
  | parse (e : ParseError)
  /-- The query cannot be run to its end. -/
  | eval (e : EvalError)
  /-- The input is no table. -/
  | table (e : Csv.ReadError)
  /-- The result cannot be written as comma-separated values. -/
  | records (e : Csv.WriteError)
  /-- Comma-separated values cannot be read from a stream that was opened, or written to it. -/
  | values (fault : FileFault)
  /-- The input cannot be opened, or the output cannot be made or written to. -/
  | file (fault : FileFault)
  /-- The manual has no text about this. -/
  | unknownTopic (name : String)

namespace CommandError

/-- The wording of an error. -/
def message : CommandError → String
  | .parse e => (QueryError.parse e).message
  | .eval e => (QueryError.eval e).message
  | .table e => "CSV error: " ++ e.message
  | .records e => "CSV error: " ++ e.message
  | .values fault => "CSV error: " ++ fault.message
  | .file fault => "IO error: " ++ fault.message
  | .unknownTopic name =>
      "Unknown topic: '" ++ name ++ "'\nRun 'tally syntax' to see available topics."

end CommandError

end RecordQuery
