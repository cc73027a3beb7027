/-
# Where a path leads

A path is followed from left to right.  Its parts stand between slashes: an empty
part and a dot stay where they are, and two dots go up.  A path that starts with a
slash starts above every directory.  Since a directory here holds files alone, a
path is settled at its first name, and all that matters after the name is whether
anything follows it.
-/
import RecordQuery.Command.Error

namespace RecordQuery

/-- How a path goes on after a name. -/
inductive Ending where
  /-- It ends. -/
  | plain
  /-- It ends in slashes, so only a directory could have the name. -/
  | slash
  /-- It goes on to further parts. -/
  | deeper
deriving DecidableEq

/-- The ending that the remaining parts of a path make. -/
def Ending.ofParts (parts : List (List Char)) : Ending :=
  if parts = [] then .plain
  else if parts.all (· = []) then .slash
  else .deeper

/-- Where a path leads, seen from a directory: to that directory or one above it, or
to a name inside or outside of it. -/
inductive Destination where
  | directory
  | inside (name : String) (ending : Ending)
  | outside (name : String) (ending : Ending)
deriving DecidableEq

namespace Destination

/-- The most bytes that a path may have. -/
def pathLimit : Nat := 4095

/-- Where parts lead when a name met first would be at a `site`. -/
def follow (site : String → Ending → Destination) :
    List (List Char) → Destination
  | [] => .directory
  | part :: rest =>
      if part = [] ∨ part = ['.'] then follow site rest
      else if part = ['.', '.'] then follow .outside rest
      else site (String.ofList part) (.ofParts rest)

/-- Where a path leads.  A path without a character leads nowhere, and one that is
too long is not followed at all. -/
def ofPath (path : String) : Except FileFault Destination :=
  if path = "" then .error .notFound
  else if pathLimit < path.utf8ByteSize then .error .tooLong
  else
    match path.toList with
    | '/' :: cs => .ok (follow .outside (cs.splitOn '/'))
    | cs => .ok (follow .inside (cs.splitOn '/'))

end Destination

end RecordQuery
