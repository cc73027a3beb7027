/-
# A directory without directories

The file system of a single directory, which holds files under their names and no further
directories; nothing is known to be outside of it.  A place is a name, and a path is
followed to the first name in it (`Destination.ofPath`).

What is written under a path is what the path leads to afterwards (`toRead_put`).
-/
import RecordQuery.Command.Files
import RecordQuery.Command.Path

namespace RecordQuery.FileSystem.Directory

/-- The most bytes that the name of a file may have. -/
def nameLimit : Nat := 255

/-- The fault of looking for a name that no file has. -/
def absence (name : String) : FileFault :=
  if nameLimit < name.utf8ByteSize then .tooLong else .notFound

/-- The fault of going on after a name as if a directory had it. -/
def faultBeyond (files : Files) (name : String) : FileFault :=
  if (files name).isSome then .notDirectory else absence name

/-- What a path leads to. -/
def toRead (files : Files) (path : String) : Except FileFault Found :=
  match Destination.ofPath path with
  | .error fault => .error fault
  | .ok .directory => .ok .directory
  | .ok (.outside name _) => .error (absence name)
  | .ok (.inside name .plain) =>
      if (files name).isSome then .ok (.file name) else .error (absence name)
  | .ok (.inside name _) => .error (faultBeyond files name)

/-- The name of the file that is made or replaced under a path.  No file is made under a
name that has a slash after it, whatever has the name. -/
def toWrite (files : Files) (path : String) : Except FileFault String :=
  match Destination.ofPath path with
  | .error fault => .error fault
  | .ok .directory => .error .isDirectory
  | .ok (.inside _ .slash) => .error .isDirectory
  | .ok (.outside _ .slash) => .error .isDirectory
  | .ok (.outside name _) => .error (absence name)
  | .ok (.inside name .deeper) => .error (faultBeyond files name)
  | .ok (.inside name .plain) =>
      if nameLimit < name.utf8ByteSize then .error .tooLong else .ok name

theorem isSome_of_toRead {files : Files} {path place : String}
    (h : toRead files path = .ok (.file place)) : (files place).isSome := by
  unfold toRead at h
  split at h
  all_goals try cases h
  rename_i name _
  split at h
  · rename_i hname
    cases h
    exact hname
  · cases h

theorem toRead_put {files : Files} {path name : String} (h : toWrite files path = .ok name)
    (contents : ByteArray) : toRead (files.put name contents) path = .ok (.file name) := by
  unfold toWrite at h
  split at h <;> try contradiction
  next hdestination =>
    split at h
    · contradiction
    · cases h
      rw [toRead, hdestination]
      simp

end RecordQuery.FileSystem.Directory

namespace RecordQuery

/-- The file system of a single directory. -/
def FileSystem.directory : FileSystem :=
  ⟨Directory.toRead, Directory.toWrite, Directory.isSome_of_toRead⟩

end RecordQuery
