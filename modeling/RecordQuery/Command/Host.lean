/-
# What a program asks of its host

A host opens sources and sinks, reads the one and writes to the other, and shows what is
printed or reported.  To open a file as a sink makes the file or empties it, before
anything is written.  Each of these steps can be the last one that goes well, and what was
done before it stays done: a fault is an answer of the host, and an error of the program
stands over whatever the host has come to.
-/
import RecordQuery.Command.Error
import RecordQuery.Command.Request

namespace RecordQuery

/-- The steps that a program can take in the world. -/
class Host (n : Type → Type) where
  /-- A stream that is open to be read. -/
  Source : Type
  /-- A stream that is open to be written to. -/
  Sink : Type
  openSource : Stream → n (Except FileFault Source)
  /-- Read all that there is. -/
  readAll : Source → n (Except FileFault ByteArray)
  /-- Open a sink; a file under the path of the stream is empty from here on. -/
  openSink : Stream → n (Except FileFault Sink)
  /-- Write a text behind what has been written. -/
  write : Sink → List Char → n (Except FileFault Unit)
  flush : Sink → n (Except FileFault Unit)
  /-- Write to the standard output. -/
  print : List Char → n Unit
  /-- Write to the error stream. -/
  report : List Char → n Unit

/-- What takes steps in the world and may fail. -/
abbrev Attempt (n : Type → Type) (α : Type) :=
  ExceptT CommandError n α

namespace Attempt

variable {n : Type → Type} [Monad n] {ε α : Type}

/-- Go on with what does not need the host, or fail for its error. -/
def settled (error : ε → CommandError) (x : Except ε α) : Attempt n α :=
  ExceptT.mk (pure (x.mapError error))

/-- Ask the host, and fail for its fault. -/
def tried (error : FileFault → CommandError) (step : n (Except FileFault α)) : Attempt n α :=
  ExceptT.mk ((·.mapError error) <$> step)

end Attempt

end RecordQuery
