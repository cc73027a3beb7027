/-
# Files and the paths to them

Files are contents at places.  Which place a path leads to is for the file system to say,
and it may depend on the files that there are.  A path is followed in two ways: to read
what is there, or to make a file or replace one.  Several paths may lead to one place; in
the simplest file system every path is a place of its own.
-/
import RecordQuery.Command.Error

namespace RecordQuery

/-- The contents of the files, by their places. -/
abbrev Files := String → Option ByteArray

namespace Files

/-- The files with new contents at a place. -/
def put (files : Files) (place : String) (contents : ByteArray) : Files :=
  fun other => if other = place then some contents else files other

variable (files : Files) (place : String) (contents : ByteArray)

@[simp] theorem put_self : files.put place contents place = some contents :=
  if_pos rfl

@[simp] theorem put_put (later : ByteArray) :
    (files.put place contents).put place later = files.put place later := by
  funext other
  unfold put
  split
  · rfl
  · rfl

end Files

/-- What is found where a path leads. -/
inductive Found where
  /-- The file at a place. -/
  | file (place : String)
  /-- A directory: it can be opened, but nothing can be read from it. -/
  | directory
deriving DecidableEq

/-- Where paths lead, and what keeps them from being followed. -/
structure FileSystem where
  /-- What a path leads to, to be read. -/
  toRead : Files → String → Except FileFault Found
  /-- The place of the file that is made, or replaced, under a path. -/
  toWrite : Files → String → Except FileFault String
  /-- No file is found that is not there. -/
  isSome_of_found {files : Files} {path place : String} :
    toRead files path = .ok (.file place) → (files place).isSome

end RecordQuery
