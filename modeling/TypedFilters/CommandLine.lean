import TypedFilters.CommandLine.Usage
import TypedFilters.Settings

/-!
# The command line

The words of a command line are options, a subcommand, and options again. Most options may stand on
both sides of the subcommand; the later value counts, and a value on the command line counts more than
one of an environment variable. Within one side no option may be given twice.

A value that is a word of its own is looked at only when the next option or the end of its side is
reached, so that a fault in between is reported in its place. The side after the subcommand is read and
checked to its end before the end of the first side is reached.
-/

namespace TypedFilters

/-- What the program is asked to do. -/
inductive Command where
  | parse (entity? : Option Entity) (input? : Option String)
  | fields (entity : Entity)
  deriving DecidableEq, Repr

/-- What a command line says. -/
structure CommandLine where
  command : Command
  overrides : Overrides
  logJson : Bool
  deriving DecidableEq, Repr

namespace CommandLine

/-! ## One side -/

/-- An option whose value has not been looked at. -/
inductive Pending where
  | nothing
  | option (option : ValueOption)
  | value (option : ValueOption) (word : String)
  deriving DecidableEq, Repr

/-- How far one side has been read. -/
structure Side where
  given : Given
  pending : Pending
  /-- After two hyphens no word is an option. -/
  onlyWords : Bool
  deriving DecidableEq, Repr

/-- A side of which nothing has been read. -/
def Side.start : Side := ⟨Given.nothing, .nothing, false⟩

/-- The pending option is looked at: it must have got a value. -/
def Side.settle (s : Side) : Except UsageFault Side :=
  match s.pending with
  | .nothing => .ok s
  | .option _ => .error .invalidValue
  | .value option word =>
    (s.given.put option word).map fun given => { s with given := given, pending := .nothing }

/-- An option with a value attached to it. -/
def Side.attach (s : Side) (option : ValueOption) (word : String) : Except UsageFault Side := do
  let s ← s.settle
  let given ← s.given.put option word
  .ok { s with given := given }

/-- An option whose value follows. -/
def Side.await (s : Side) (option : ValueOption) : Except UsageFault Side := do
  let s ← s.settle
  .ok { s with pending := .option option }

/-- The option for logs in JSON. -/
def Side.setLogJson (s : Side) : Except UsageFault Side := do
  let s ← s.settle
  if s.given.logJson?.isSome then .error .conflict
  else .ok { s with given := { s.given with logJson? := some true } }

/-- A long option, with the word attached to it by an equals sign, if any. -/
def Side.long (verb? : Option Verb) (s : Side) (name : String) (attached? : Option String) :
    Except UsageFault Side :=
  match longOption? verb? name, attached? with
  | none, _ => .error .unknownArgument
  | some (.value option), some word => s.attach option word
  | some (.value option), none => s.await option
  | some _, some _ => .error .tooManyValues
  | some .logJson, none => s.setLogJson
  | some .help, none => s.settle.bind fun _ => .error .helpRequested
  | some .version, none => s.settle.bind fun _ => .error .versionRequested

/-- A short option, with what follows the letter in the same word. -/
def Side.short (verb? : Option Verb) (s : Side) (letter : Char) (rest : List Char) :
    Except UsageFault Side :=
  match shortOption? verb? letter, rest with
  | none, _ => .error .unknownArgument
  | some (.value option), [] => s.await option
  | some (.value option), '=' :: word => s.attach option (String.ofList word)
  | some (.value option), word => s.attach option (String.ofList word)
  | some .logJson, _ => s.setLogJson
  | some .help, _ => s.settle.bind fun _ => .error .helpRequested
  | some .version, _ => s.settle.bind fun _ => .error .versionRequested

/-- What a word looks like by itself. -/
inductive Look where
  | separator
  | long (name : String) (attached? : Option String)
  | short (letter : Char) (rest : List Char)
  | word
  deriving DecidableEq, Repr

/-- The look of a word, by the hyphens in front. -/
def look (word : String) : Look :=
  match word.toList with
  | ['-', '-'] => .separator
  | '-' :: '-' :: cs =>
    let name := cs.takeWhile (· ≠ '=')
    let attached? :=
      match cs.drop name.length with
      | _ :: value => some (String.ofList value)
      | [] => none
    .long (String.ofList name) attached?
  | '-' :: c :: rest => .short c rest
  | _ => .word

/-- The fault of a word that is no option, no value and no subcommand. -/
def strayWord (verb? : Option Verb) (s : Side) (word : String) : UsageFault :=
  if verb?.isSome || (s.onlyWords && isSubcommand word) then .unknownArgument
  else .invalidSubcommand

/-- A word that is no option: the value of a pending option, or a stray word. -/
def Side.takeWord (verb? : Option Verb) (s : Side) (word : String) : Except UsageFault Side :=
  match s.onlyWords, s.pending with
  | false, .option option => .ok { s with pending := .value option word }
  | _, _ => .error (strayWord verb? s word)

/-- One word of a side. -/
def Side.take (verb? : Option Verb) (s : Side) (word : String) : Except UsageFault Side :=
  if s.onlyWords then .error (strayWord verb? s word)
  else
    match look word with
    | .separator => .ok { s with onlyWords := true }
    | .long name attached? => s.long verb? name attached?
    | .short letter rest => s.short verb? letter rest
    | .word => s.takeWord verb? word

/-- A subcommand may be named here: not where a value is awaited, and not after two hyphens. -/
def Side.mayEnd (s : Side) : Bool :=
  !s.onlyWords &&
    match s.pending with
    | .option _ => false
    | _ => true

/-- All words of the side after a subcommand. -/
def takeAll (verb : Verb) : Side → List String → Except UsageFault Side
  | s, [] => .ok s
  | s, word :: rest =>
    match s.take (some verb) word with
    | .error fault => .error fault
    | .ok s => takeAll verb s rest

/-- What the words after `help` ask for: help on at most one subcommand. -/
def helpOn : List String → UsageFault
  | [] => .helpRequested
  | [word] => if isSubcommand word then .helpRequested else .invalidSubcommand
  | _ => .invalidSubcommand

/-- The words in front of the subcommand, the subcommand, and the words after it. -/
def takeTop : Side → List String → Except UsageFault (Side × Option (Verb × List String))
  | s, [] => .ok (s, none)
  | s, word :: rest =>
    if s.mayEnd && word == helpName then .error (helpOn rest)
    else
      match (if s.mayEnd then Verb.named? word else none) with
      | some verb => .ok (s, some (verb, rest))
      | none =>
        match s.take none word with
        | .error fault => .error fault
        | .ok s => takeTop s rest

/-! ## Both sides -/

/-- The values of a side, on the command line and from the environment. -/
def Side.finish (env : Environment) (s : Side) : Except UsageFault (Given × Given) := do
  let s ← s.settle
  let fromEnv ← ofEnvironment env s.given
  .ok (s.given, fromEnv)

/-- The side after a subcommand, whose required options must be given. -/
def readSubcommand (env : Environment) (verb : Verb) (words : List String) :
    Except UsageFault (Given × Given) := do
  let s ← takeAll verb Side.start words
  let (given, fromEnv) ← s.finish env
  if verb = .fields ∧ given.entity?.isNone then .error .missingRequired
  else .ok (given, fromEnv)

/-- The command of a subcommand with its values. -/
def commandOf (verb : Verb) (given : Given) : Except UsageFault Command :=
  match verb, given.entity? with
  | .parse, entity? => .ok (.parse entity? given.input?)
  | .fields, some entity => .ok (.fields entity)
  | .fields, none => .error .missingRequired

/-- What the words of a command line say in an environment. -/
def read (env : Environment) (words : List String) : Except UsageFault CommandLine := do
  let (top, subcommand?) ← takeTop Side.start words
  match subcommand? with
  | none =>
    let (given, fromEnv) ← top.finish env
    if given.isNothing && fromEnv.isNothing then .error .nothingGiven
    else .error .missingSubcommand
  | some (verb, rest) =>
    let (later, laterEnv) ← readSubcommand env verb rest
    let (earlier, earlierEnv) ← top.finish env
    let all := (later.stackedOn earlier).stackedOn (laterEnv.stackedOn earlierEnv)
    let command ← commandOf verb all
    .ok ⟨command,
      ⟨all.config?, ⟨all.encoding?, all.timezone?, all.maxFilters?, all.maxJsonBytes?⟩⟩,
      all.logJson?.getD false⟩

end CommandLine

end TypedFilters
