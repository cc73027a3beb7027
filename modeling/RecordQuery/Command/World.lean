/-
# Worlds

A world is a host of which everything is known: a file system with its files, the standard
input, and what has been written to the standard output and as errors.  Whatever is open
accepts what is written to it.
-/
import RecordQuery.Command.Files
import RecordQuery.Command.Host

namespace RecordQuery

/-- The files and the standard streams: what can still be read, and what has been
written. -/
structure World where
  system : FileSystem
  files : Files
  input : ByteArray
  output : List Char
  errors : List Char

namespace World

/-- The bytes of a text. -/
def encode (text : List Char) : ByteArray :=
  (String.ofList text).toUTF8

/-- What is open to be read. -/
inductive Source where
  | standard
  | found (what : Found)

/-- What is open to be written to. -/
inductive Sink where
  | standard
  | file (place : String)

/-- The contents of the file at a place. -/
def contents (w : World) (place : String) : ByteArray :=
  (w.files place).getD .empty

/-- The world with a text at the end of an open sink. -/
def write (w : World) (text : List Char) : Sink → World
  | .standard => { w with output := w.output ++ text }
  | .file place => { w with files := w.files.put place (w.contents place ++ encode text) }

/-- What a stream is, to be read. -/
def source (w : World) : Stream → Except FileFault Source
  | .standard => .ok .standard
  | .file path => (w.system.toRead w.files path).map .found

/-- What is read from a source, and the world afterwards.  A file is read as it is now, not
as it was when it was opened. -/
def readAll (w : World) : Source → Except FileFault ByteArray × World
  | .standard => (.ok w.input, { w with input := .empty })
  | .found (.file place) => (.ok (w.contents place), w)
  | .found .directory => (.error .isDirectory, w)

/-- What a stream is, to be written to, and the world once it is open. -/
def sink (w : World) : Stream → Except FileFault Sink × World
  | .standard => (.ok .standard, w)
  | .file path =>
      match w.system.toWrite w.files path with
      | .error fault => (.error fault, w)
      | .ok place => (.ok (.file place), { w with files := w.files.put place .empty })

end World

instance : Host (StateM World) where
  Source := World.Source
  Sink := World.Sink
  openSource stream := fun w => (w.source stream, w)
  readAll source := fun w => w.readAll source
  openSink stream := fun w => w.sink stream
  write sink text := fun w => (.ok (), w.write text sink)
  flush _ := fun w => (.ok (), w)
  print text := fun w => ((), w.write text .standard)
  report text := fun w => ((), { w with errors := w.errors ++ text })

end RecordQuery
