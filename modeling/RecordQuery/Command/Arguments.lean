/-
# From arguments to a request

A command line is a command with arguments of its own; the flags `-v` and `-h`
may stand before the command or behind it, `-V` before it.

    run [option …] [word …]     check [word …]     functions     syntax [topic]

An option is written `--name value`, `--name=value`, `-n value` or `-nvalue`,
and flags of one letter may share a hyphen.  The first argument that is no option
begins the words of a query, and everything behind it is a word; what looks like
an option but is none is a word, too.  Only where a setting waits for its value
is such an argument the value.  `--` ends the options.

Arguments are read from left to right: a call for help or for the version is
answered at once, and a fault behind it is not seen.
-/
import RecordQuery.Command.Settings

namespace RecordQuery

/-! ## Single arguments -/

/-- An option as it stands in an argument. -/
inductive Given where
  /-- The flag that asks for more log output. -/
  | verbose
  /-- The flag that asks how requests are made. -/
  | help
  /-- The flag that asks for the version. -/
  | version
  /-- A setting with its value, or one whose value is the next argument. -/
  | setting (s : Setting) (value : Option String)
  /-- A flag with a value, which no flag takes. -/
  | flagWithValue
  /-- Something that looks like an option and is none. -/
  | unknown

/-- Is it an option at all? -/
def Given.isKnown : Given → Bool
  | .unknown => false
  | _ => true

/-- The commands with options of their own, and the place before the command. -/
inductive Scope where
  | top
  | run
  | plain
deriving DecidableEq

namespace Scope

/-- The flag with a long name. -/
def flagOfName? (scope : Scope) (name : String) : Option Given :=
  if name = "verbose" then some .verbose
  else if name = "help" then some .help
  else if name = "version" ∧ scope = .top then some .version
  else none

/-- The flag with a letter. -/
def flagOfLetter? (scope : Scope) (letter : Char) : Option Given :=
  if letter = 'v' then some .verbose
  else if letter = 'h' then some .help
  else if letter = 'V' ∧ scope = .top then some .version
  else none

/-- The setting with a long name. -/
def settingOfName? (scope : Scope) (name : String) : Option Setting :=
  if scope = .run then Setting.ofName? name else none

/-- The setting with a letter. -/
def settingOfLetter? (scope : Scope) (letter : Char) : Option Setting :=
  if scope = .run then Setting.ofLetter? letter else none

/-- Is it the letter of an option? -/
def knows (scope : Scope) (letter : Char) : Bool :=
  (scope.flagOfLetter? letter).isSome || (scope.settingOfLetter? letter).isSome

/-- The option behind two hyphens. -/
def long (scope : Scope) (name : String) (value : Option String) : Given :=
  match scope.settingOfName? name, scope.flagOfName? name with
  | some s, _ => .setting s value
  | none, some flag => if value.isSome then .flagWithValue else flag
  | none, none => .unknown

/-- The options behind one hyphen; what follows the letter of a setting is its
value. -/
def letters (scope : Scope) : List Char → List Given
  | [] => []
  | c :: cs =>
      match scope.settingOfLetter? c, scope.flagOfLetter? c with
      | some s, _ => [.setting s (if cs.isEmpty then none else some (String.ofList cs))]
      | none, some flag => flag :: letters scope cs
      | none, none => [.unknown]

end Scope

/-- What an argument is. -/
inductive Argument where
  | endOfOptions
  | options (given : List Given)
  | plain

/-- The name in front of an equals sign, and the value behind it. -/
def nameAndValue (cs : List Char) : String × Option String :=
  let value :=
    match cs.dropWhile (· ≠ '=') with
    | [] => none
    | _ :: value => some (String.ofList value)
  (String.ofList (cs.takeWhile (· ≠ '=')), value)

/-- Classify an argument. -/
def Argument.of (scope : Scope) (arg : String) : Argument :=
  match arg.toList with
  | ['-', '-'] => .endOfOptions
  | '-' :: '-' :: cs =>
      let (name, value) := nameAndValue cs
      .options [scope.long name value]
  | '-' :: c :: cs => .options (scope.letters (c :: cs))
  | _ => .plain

/-- Classify an argument where a word may begin with a hyphen: what holds an unknown
option, or behind one hyphen a letter of no option, is no option. -/
def Argument.orWord (scope : Scope) (arg : String) : Argument :=
  match arg.toList, Argument.of scope arg with
  | '-' :: cs, .options given =>
      if given.all Given.isKnown && (cs.head? == some '-' || cs.all scope.knows)
      then .options given else .plain
  | _, other => other

/-! ## Commands -/

/-- Obey flags, then go on. -/
def afterFlags : List Given → Option Request → Option Request
  | [], next => next
  | .verbose :: more, next => afterFlags more next
  | .help :: _, _ => some (.ask .help)
  | .version :: _, _ => some (.ask .version)
  | _ :: _, _ => none

/-- Obey the options of a run, then go on with the settings and the one that waits
for its value. -/
def afterOptions (s : Settings) (next : Settings → Option Setting → Option Request) :
    List Given → Option Request
  | [] => next s none
  | .verbose :: more => afterOptions s next more
  | .help :: _ => some (.ask .help)
  | .setting which none :: _ => next s (some which)
  | .setting which (some value) :: _ => (s.give which value).bind fun s' => next s' none
  | _ :: _ => none

/-- The request of `run`; `waiting` is the setting whose value comes next. -/
def runRequest (env : Environment) :
    (s : Settings) → (waiting : Option Setting) → List String → Option Request
  | s, none, [] => s.request env []
  | _, some _, [] => none
  | s, none, arg :: rest =>
      match Argument.orWord .run arg with
      | .endOfOptions => s.request env rest
      | .options given =>
          afterOptions s (fun s' waiting => runRequest env s' waiting rest) given
      | .plain => s.request env (arg :: rest)
  | s, some which, arg :: rest =>
      match Argument.orWord .run arg with
      | .endOfOptions | .options _ => none
      | .plain => (s.give which arg).bind fun s' => runRequest env s' none rest

/-- The request of `check`. -/
def checkRequest : List String → Option Request
  | [] => some (.ask (.check []))
  | arg :: rest =>
      match Argument.orWord .plain arg with
      | .endOfOptions => some (.ask (.check rest))
      | .options given => afterFlags given (checkRequest rest)
      | .plain => some (.ask (.check (arg :: rest)))

/-- The request of `functions`. -/
def functionsRequest : List String → Option Request
  | [] => some (.ask .functions)
  | arg :: rest =>
      match Argument.of .plain arg with
      | .endOfOptions => if rest.isEmpty then some (.ask .functions) else none
      | .options given => afterFlags given (functionsRequest rest)
      | .plain => none

/-- The request of `syntax`, once the topic has been given or before. -/
def manualRequest : (topic : Option String) → List String → Option Request
  | topic, [] => some (.ask (.manual topic))
  | topic, arg :: rest =>
      match Argument.of .plain arg with
      | .endOfOptions =>
          match topic, rest with
          | _, [] => some (.ask (.manual topic))
          | none, [name] => some (.ask (.manual (some name)))
          | _, _ => none
      | .options given => afterFlags given (manualRequest topic rest)
      | .plain => if topic.isNone then manualRequest (some arg) rest else none

/-- The names of the commands. -/
def commandNames : List String :=
  ["run", "check", "functions", "syntax", "help"]

/-- The request of `help`, which may name a command. -/
def helpRequest : List String → Option Request
  | [] => some (.ask .help)
  | [name] => if name ∈ commandNames then some (.ask .help) else none
  | _ => none

/-- The request that the arguments make; none, if they make no sense. -/
def Request.ofArguments (env : Environment) : List String → Option Request
  | [] => none
  | arg :: rest =>
      match Argument.of .top arg with
      | .endOfOptions => none
      | .options given => afterFlags given (Request.ofArguments env rest)
      | .plain =>
          match arg with
          | "run" => runRequest env {} none rest
          | "check" => checkRequest rest
          | "functions" => functionsRequest rest
          | "syntax" => manualRequest none rest
          | "help" => helpRequest rest
          | _ => none

end RecordQuery
