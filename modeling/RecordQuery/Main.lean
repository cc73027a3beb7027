/-
# The command line

The outer layer of the program: arguments, environment, files and standard
streams come from the system here, and nothing is decided.  What a request reads
and writes, and in which order, is said in `RecordQuery.Command.Execute`.
-/
import RecordQuery.Command.Execute

namespace RecordQuery

/-- The fault that the system reports. -/
def FileFault.ofSystem : IO.Error → FileFault
  | .alreadyExists _ code details
  | .otherError code details
  | .resourceBusy code details
  | .resourceVanished code details
  | .unsupportedOperation code details
  | .hardwareFault code details
  | .unsatisfiedConstraints code details
  | .illegalOperation code details
  | .protocolError code details
  | .timeExpired code details
  | .interrupted _ code details
  | .noFileOrDirectory _ code details
  | .invalidArgument _ code details
  | .permissionDenied _ code details
  | .resourceExhausted _ code details
  | .inappropriateType _ code details
  | .noSuchThing _ code details => ⟨details, code.toNat⟩
  | .unexpectedEof => ⟨"unexpected end of file", 0⟩
  | .userError message => ⟨message, 0⟩

/-- Do something with a file, or say what fault there was. -/
def attempt {α : Type} (action : IO α) : IO (Except FileFault α) := do
  try
    return .ok (← action)
  catch e =>
    return .error (.ofSystem e)

/-- The system is a host: its standard streams, and files by their paths. -/
instance : Host IO where
  Source := IO.FS.Stream
  Sink := IO.FS.Stream
  openSource
    | .standard => attempt IO.getStdin
    | .file path => attempt (IO.FS.Stream.ofHandle <$> IO.FS.Handle.mk path .read)
  readAll source := attempt source.readBinToEnd
  openSink
    | .standard => attempt IO.getStdout
    | .file path => attempt (IO.FS.Stream.ofHandle <$> IO.FS.Handle.mk path .write)
  write sink text := attempt (sink.putStr (String.ofList text))
  flush sink := attempt sink.flush
  print text := IO.print (String.ofList text)
  report text := IO.eprint (String.ofList text)

/-- The variables of the system that stand in for settings. -/
def Environment.ofSystem : IO Environment := do
  return ⟨← IO.getEnv inputTypeVariable, ← IO.getEnv outputTypeVariable⟩

end RecordQuery

open RecordQuery in
/-- Execute the command line. -/
def main (args : List String) : IO UInt32 := do
  let status ← commandLine (← Environment.ofSystem) args
  return status.code.toUInt32
