/-
# Executing a request

A run takes its steps in this order: it reads the words of its query, opens its input and
reads all of it, makes a table, runs the query, and only then opens its output and renders
the result.  The first step that fails is the last one; what has been done before it stays.
Every error is reported.
-/
import RecordQuery.Command.Arguments
import RecordQuery.Command.Host
import RecordQuery.Command.Manual
import RecordQuery.Query

namespace RecordQuery

open Attempt

section

variable {n : Type → Type} [Monad n] [Host n]

/-! ## Rendering -/

namespace Host.Sink

/-- Write a text. -/
def put (sink : Host.Sink n) (text : List Char) : Attempt n Unit :=
  tried .file (Host.write sink text)

/-- Write records, until one of them is refused. -/
def putRecords (sink : Host.Sink n) : Csv.Writer → List (List (List Char)) → Attempt n Unit
  | _, [] => pure ()
  | writer, fields :: more => do
      let writer ← settled .records (writer.accept fields)
      tried .values (Host.write sink (Csv.writeRecord fields))
      putRecords sink writer more

end Host.Sink

/-- Write a collection in a format; the width limits the cells of a grid. -/
def Collection.render (c : Collection) (width : Option Nat) (sink : Host.Sink n) :
    Format → Attempt n Unit
  | .csv => do
      sink.putRecords { flexible := true } (Csv.records c)
      tried .values (Host.flush sink)
  | .table => sink.put (Grid.ofCollection width c)
  | .json => sink.put (c.toDocument.indented 0 ++ ['\n'])
  | .count => sink.put (Decimal.ofNat c.size ++ ['\n'])

/-! ## Runs -/

namespace RunOptions

/-- Read the input. -/
def readTable (o : RunOptions) : Attempt n Collection := do
  let source ← tried .file (Host.openSource o.input)
  let bytes ← tried .values (Host.readAll source)
  let rows ← settled .table (Csv.readBytes o.inputType.delimiter bytes.toList)
  return .rows rows

/-- Run the query. -/
def execute (o : RunOptions) : Attempt n Unit := do
  let plan ← settled .parse (Plan.parse Registry.full o.words)
  let table ← o.readTable
  let result ← settled .eval (plan.run Registry.full table)
  let sink ← tried .file (Host.openSink o.output)
  result.render o.maxWidth sink o.format
  tried .file (Host.flush sink)

end RunOptions

end

/-! ## Questions -/

/-- The text that names the program and its version. -/
def versionText : String :=
  "tally 0.1.0\n"

/-- The text that says how requests are made. -/
def helpText : String :=
  "Usage: tally [-v] <command>

Commands:
  run [option]... [word]...   Run a query against comma-separated input
  check [word]...             Parse a query and print its plan
  functions                   List the available functions
  syntax [topic]              Show query syntax help

Options of run:
  -i, --input <file>          Input file, standard input if '-'
      --input-type <type>     csv or tsv
  -t, --output-type <type>    csv, table, json or count
  -o, --output <file>         Output file, standard output if '-'
      --max-width <n>         Cut table cells wider than this
"

/-- The listing of the plan of a query. -/
def checkText (words : List String) : Except CommandError String :=
  match Plan.parse Registry.full words with
  | .ok plan => .ok (plan.listing (.indented 0))
  | .error e => .error (.parse e)

/-- The text of the manual about a topic; without a topic, the text that lists the
topics. -/
def manualText : Option String → Except CommandError String
  | none => .ok Manual.overview
  | some name =>
      match Topic.ofName? name with
      | some topic => .ok topic.text
      | none => .error (.unknownTopic name)

/-- The text that answers a question. -/
def Question.answer : Question → Except CommandError String
  | .check words => (checkText words).map (· ++ "\n")
  | .functions => .ok (Manual.functionList Registry.full)
  | .manual topic => manualText topic
  | .version => .ok versionText
  | .help => .ok helpText

/-! ## Requests -/

/-- What a request comes to: success, an error that was reported, or arguments that
make no request. -/
inductive Status where
  | success
  | failure
  | usage
deriving DecidableEq

/-- The number by which a status is known to the caller. -/
def Status.code : Status → Nat
  | .success => 0
  | .failure => 1
  | .usage => 2

section

variable {n : Type → Type} [Monad n] [Host n]

/-- Do what is asked for. -/
def Request.perform : Request → Attempt n Unit
  | .run o => o.execute
  | .ask question => do
      let text ← settled id question.answer
      ExceptT.lift (Host.print text.toList)

/-- Do what is asked for, and report why it cannot be done. -/
def Request.execute (r : Request) : n Status := do
  match ← r.perform.run with
  | .ok () => return .success
  | .error e =>
      Host.report (e.message.toList ++ ['\n'])
      return .failure

/-- Execute a command line.  Arguments that make no request are answered by what requests
there are. -/
def commandLine (env : Environment) (args : List String) : n Status :=
  match Request.ofArguments env args with
  | some request => request.execute
  | none => do
      Host.report helpText.toList
      return .usage

end

end RecordQuery
