import TypedFilters.Catalogue.Printer
import TypedFilters.CommandLine
import TypedFilters.CommandLine.EnvFile
import TypedFilters.Logging.Filter
import TypedFilters.Report

/-!
# A session of the program

`Session.run` is one run of the program: the environment file is read, the command line is followed,
settings are loaded, the tables of fields are checked, and the command is carried out. Its outcome holds
what is written and the exit status. A list of filters is written as JSON, and a refused list as the report
of its error.
-/

namespace TypedFilters

/-- What a run leaves behind. -/
structure Outcome where
  exitStatus : Nat
  stdout : String
  /-- The message of a failure. -/
  error? : Option String
  /-- The warnings and errors that the log filter lets through. -/
  logs : List LogRecord
  /-- The log is written as JSON. -/
  logJson : Bool
  deriving Repr

/-! ## Parsing under settings -/

namespace Settings

/-- The filters of a text, for an entity or for those that its descriptors name, with what is logged. -/
def parseLogged (settings : Settings) (entity? : Option Entity) (text : String) :
    List LogRecord × Except FilterError (List Filter) :=
  match entity? with
  | some entity => settings.intake.parseLogged entity text
  | none => settings.intake.parseTaggedLogged text

/-- The filters of a text: for an entity, or for those that its descriptors name. -/
def parse (settings : Settings) (entity? : Option Entity) (text : String) :
    Except FilterError (List Filter) :=
  (settings.parseLogged entity? text).2

/-- The text of a list of filters. -/
def filtersText (filters : List Filter) : String :=
  Json.pretty (.array (filters.map Filter.toJson))

/-- What is answered for filters: their text, unless they cannot be serialised. -/
def answer (filters : List Filter) : Except Report String :=
  match Json.serializeItems Filter.serialize filters with
  | .ok v => .ok (Json.pretty v)
  | .error reason => .error (.internal s!"Failed to serialize filters: {reason}")

/-- What is answered to a text, with what is logged: the text of its filters, or the report of its
refusal. -/
def renderLogged (settings : Settings) (entity? : Option Entity) (text : String) :
    List LogRecord × Except Report String :=
  match settings.parseLogged entity? text with
  | (logs, .ok filters) => (logs, answer filters)
  | (logs, .error e) => (logs, .error (.ofError e))

/-- What is answered to a text. -/
def render (settings : Settings) (entity? : Option Entity) (text : String) : Except Report String :=
  (settings.renderLogged entity? text).2

end Settings

/-! ## Commands -/

namespace Session

/-- What a command writes, with its failure and its log. -/
structure Result where
  stdout : String
  error? : Option String
  logs : List LogRecord

/-- A failure that leaves nothing but its message. -/
def Result.failed (message : String) (logs : List LogRecord) : Result :=
  ⟨"", some message, logs⟩

/-- The parsing of a text. -/
def parseText (settings : Settings) (entity? : Option Entity) (text : String) : Result :=
  match settings.renderLogged entity? text with
  | (logs, .ok output) => ⟨output ++ "\n", none, logs⟩
  | (logs, .error report) =>
    ⟨Json.pretty report.body ++ "\n", some s!"Filter list rejected ({report.statusLine})",
      logs ++ report.records .inRun⟩

/-- The text of octets that were read from the standard input. -/
def inputText (octets : List UInt8) : Except String String :=
  match Text.ofOctets? octets with
  | some text => .ok text
  | none => .error s!"Failed to read filters from stdin: {ReadFault.notUtf8.message}"

/-- The text of the file at an absolute path. -/
def fileText (path : String) (entry : Entry) : Except String String :=
  match entry.text with
  | .ok text => .ok text
  | .error fault => .error s!"Failed to read input file: {path}: {fault.message}"

/-- The catalogue of an entity. -/
def listFields (entity : Entity) : Result :=
  match Json.serializeItems FieldInfo.serialize entity.published with
  | .ok v => ⟨Json.pretty v ++ "\n", none, []⟩
  | .error reason => .failed reason []

/-- A mistake in the tables of fields, which keeps the program from carrying out anything. -/
def invalidTables (fault : TableFault) : Result :=
  .failed s!"Built-in filter schema is invalid: {fault.message}" [.invalidTable fault]

/-- The version of the program. -/
def versionLine : String := "tracefilter 0.1.0\n"

/-- The variables that may hold the log filter, in the order in which they are looked at. -/
def logVariables : List String := ["TRACEFILTER_LOG", "RUST_LOG"]

/-- Warnings, and from this program also what is less important. -/
def defaultLogFilter : String := "warn,tracefilter=info"

/-- The log filter that an environment asks for. -/
def logFilter (env : Environment) : String :=
  (logVariables.findSome? env).getD defaultLogFilter

/-- The outcome of a command. -/
def conclude (env : Environment) (logJson : Bool) (r : Result) : Outcome :=
  ⟨if r.error?.isSome then 1 else 0, r.stdout, r.error?,
    r.logs.filter (admitsRecord (logFilter env)), logJson⟩

/-- The outcome of a command line that is not followed. -/
def refuse (fault : UsageFault) : Outcome :=
  ⟨fault.exitStatus, if fault = .versionRequested then versionLine else "", none, [], false⟩

section Running

variable {m : Type → Type} [Monad m]

/-- The text of the input that a path names, or of the standard input. -/
def readInput (files : Files m) (stdin : m (List UInt8)) (input? : Option String) :
    m (Except String String) :=
  match input? with
  | some given => do
    let path := files.expand given
    let entry ← files.entry path
    pure (fileText path entry)
  | none => do
    let octets ← stdin
    pure (inputText octets)

/-- A command carried out under settings. -/
def carryOut (files : Files m) (stdin : m (List UInt8)) (settings : Settings) :
    Command → m Result
  | .fields entity => pure (listFields entity)
  | .parse entity? input? => do
    match ← readInput files stdin input? with
    | .error message => pure (.failed message [])
    | .ok text => pure (parseText settings entity? text)

/-- A command carried out under settings, once the tables of fields have been checked. -/
def start (files : Files m) (stdin : m (List UInt8)) (settings : Settings) (command : Command) :
    m Result :=
  match catalogueFault? with
  | some fault => pure (invalidTables fault)
  | none => carryOut files stdin settings command

/-- A command line that is followed: the settings are loaded first. -/
def follow (files : Files m) (stdin : m (List UInt8)) (line : CommandLine)
    (zone? : String → Option Zone) : m Result := do
  let (warnings, settings) ← Settings.load files line.overrides zone?
  match settings with
  | .error fault => pure (.failed fault.message warnings)
  | .ok settings => do
    let r ← start files stdin settings line.command
    pure { r with logs := warnings ++ r.logs }

/-- One run of the program on the words of its command line. -/
def run (files : Files m) (stdin : m (List UInt8)) (env : Environment) (words : List String)
    (zone? : String → Option Zone := Zone.named?) : m Outcome := do
  let env ← EnvFile.load files env
  match CommandLine.read env words with
  | .error fault => pure (refuse fault)
  | .ok line => do
    let r ← follow files stdin line zone?
    pure (conclude env line.logJson r)

end Running

end Session

end TypedFilters
