import TypedFilters.Entity
import TypedFilters.Text.Ascii
import TypedFilters.Transport

/-!
# Options of the command line

The options, the environment variables that stand in for them, and the values they take. An option
that is given on the command line takes precedence over its variable.
-/

namespace TypedFilters

/-- The subcommands. -/
inductive Verb where
  | parse
  | fields
  deriving DecidableEq, Repr

/-- The subcommand of a name. -/
def Verb.named? : String → Option Verb
  | "parse" => some parse
  | "fields" => some fields
  | _ => none

/-- The name of the subcommand that explains the others. -/
def helpName : String := "help"

/-- A word that stands for a subcommand, the explaining one included. -/
def isSubcommand (word : String) : Bool :=
  word == helpName || (Verb.named? word).isSome

/-- The options that take a value. -/
inductive ValueOption where
  | config
  | encoding
  | timezone
  | maxFilters
  | maxJsonBytes
  | entity
  | input
  deriving DecidableEq, Repr

/-- What an option asks for. -/
inductive OptionRole where
  | value (option : ValueOption)
  | logJson
  | help
  | version
  deriving DecidableEq, Repr

/-- Why a command line is not followed. Asking for help or the version is one of the reasons. -/
inductive UsageFault where
  | nothingGiven
  | missingSubcommand
  | missingRequired
  | refusedValue (reason : String)
  | invalidValue
  | conflict
  | unknownArgument
  | invalidSubcommand
  | tooManyValues
  | helpRequested
  | versionRequested
  deriving DecidableEq, Repr

/-- The exit status: success if help or the version was asked for. -/
def UsageFault.exitStatus : UsageFault → Nat
  | helpRequested | versionRequested => 0
  | _ => 2

/-! ## Names -/

/-- The role of a long option at the top (`none`) or after a subcommand. -/
def longOption? (verb? : Option Verb) (name : String) : Option OptionRole :=
  match name, verb? with
  | "config", _ => some (.value .config)
  | "encoding", _ => some (.value .encoding)
  | "timezone", _ => some (.value .timezone)
  | "max-filters", _ => some (.value .maxFilters)
  | "max-json-bytes", _ => some (.value .maxJsonBytes)
  | "log-json", _ => some .logJson
  | "help", _ => some .help
  | "version", none => some .version
  | "entity", some _ => some (.value .entity)
  | "input", some .parse => some (.value .input)
  | _, _ => none

/-- The role of a short option at the top (`none`) or after a subcommand. -/
def shortOption? (verb? : Option Verb) (letter : Char) : Option OptionRole :=
  match letter, verb? with
  | 'c', _ => some (.value .config)
  | 'e', _ => some (.value .encoding)
  | 'h', _ => some .help
  | 'V', none => some .version
  | 'E', some _ => some (.value .entity)
  | 'i', some .parse => some (.value .input)
  | _, _ => none

/-! ## Values -/

/-- The values that have been given at one level. -/
structure Given where
  config? : Option String
  encoding? : Option Encoding
  timezone? : Option String
  maxFilters? : Option Nat
  maxJsonBytes? : Option Nat
  logJson? : Option Bool
  entity? : Option Entity
  input? : Option String
  deriving DecidableEq, Repr

namespace Given

/-- No values. -/
def nothing : Given := ⟨none, none, none, none, none, none, none, none⟩

/-- Each value from the first of two levels that has it. -/
def stackedOn (upper lower : Given) : Given :=
  ⟨upper.config?.or lower.config?, upper.encoding?.or lower.encoding?,
    upper.timezone?.or lower.timezone?, upper.maxFilters?.or lower.maxFilters?,
    upper.maxJsonBytes?.or lower.maxJsonBytes?, upper.logJson?.or lower.logJson?,
    upper.entity?.or lower.entity?, upper.input?.or lower.input?⟩

/-- An option has been given. -/
def has (g : Given) : ValueOption → Bool
  | .config => g.config?.isSome
  | .encoding => g.encoding?.isSome
  | .timezone => g.timezone?.isSome
  | .maxFilters => g.maxFilters?.isSome
  | .maxJsonBytes => g.maxJsonBytes?.isSome
  | .entity => g.entity?.isSome
  | .input => g.input?.isSome

/-- Nothing has been given that counts for the program as a whole. -/
def isNothing (g : Given) : Bool :=
  g == nothing

end Given

/-- The encoding that a word names; `none` is another name for plain. -/
def encodingOfWord (word : String) : Except UsageFault Encoding :=
  match Text.lower word with
  | "plain" | "none" => .ok .plain
  | "url" => .ok .url
  | "base64" => .ok .base64
  | _ => .error (.refusedValue s!"Invalid encoding '{word}'. Valid options: plain, url, base64")

/-- The entity that a word names. -/
def entityOfWord (word : String) : Except UsageFault Entity :=
  match Entity.named? word with
  | some e => .ok e
  | none => .error (.refusedValue (Entity.unknownMessage word))

/-- The greatest size that can be given. -/
def maxSize : Nat := Nat.pow 2 64 - 1

/-- Digits added to a size, up to the greatest one. -/
def sizeOfDigits : Nat → List Char → Except UsageFault Nat
  | n, [] => .ok n
  | n, c :: rest =>
    match Text.digit? c with
    | none => .error (.refusedValue "invalid digit found in string")
    | some d =>
      if maxSize < n * 10 + d then
        .error (.refusedValue "number too large to fit in target type")
      else sizeOfDigits (n * 10 + d) rest

/-- The size that a word spells: digits, after a plus or not. -/
def sizeOfWord (word : String) : Except UsageFault Nat :=
  match word.toList with
  | [] => .error (.refusedValue "cannot parse integer from empty string")
  | ['+'] => .error (.refusedValue "invalid digit found in string")
  | '+' :: digits => sizeOfDigits 0 digits
  | digits => sizeOfDigits 0 digits

/-- A path, which may not be empty. -/
def pathOfWord (word : String) : Except UsageFault String :=
  if word.isEmpty then .error .invalidValue else .ok word

/-- The truth value that a word spells. -/
def truthOfWord : String → Except UsageFault Bool
  | "true" => .ok true
  | "false" => .ok false
  | _ => .error .invalidValue

/-- The values with one more, which must not have been given before. -/
def Given.put (g : Given) (option : ValueOption) (word : String) : Except UsageFault Given :=
  if g.has option then .error .conflict
  else
    match option with
    | .config => (pathOfWord word).map fun x => { g with config? := some x }
    | .encoding => (encodingOfWord word).map fun x => { g with encoding? := some x }
    | .timezone => .ok { g with timezone? := some word }
    | .maxFilters => (sizeOfWord word).map fun x => { g with maxFilters? := some x }
    | .maxJsonBytes => (sizeOfWord word).map fun x => { g with maxJsonBytes? := some x }
    | .entity => (entityOfWord word).map fun x => { g with entity? := some x }
    | .input => (pathOfWord word).map fun x => { g with input? := some x }

/-! ## Environment variables -/

/-- The environment: the value of a variable, if it is set. -/
abbrev Environment := String → Option String

/-- The variables that stand in for options, in the order in which they are looked at. -/
def standIns : List (ValueOption × String) :=
  [(.config, "TRACEFILTER_CONFIG"), (.encoding, "TRACEFILTER_ENCODING"),
    (.timezone, "TRACEFILTER_TIMEZONE"), (.maxFilters, "TRACEFILTER_MAX_FILTERS"),
    (.maxJsonBytes, "TRACEFILTER_MAX_JSON_BYTES")]

/-- The variable that stands in for the option `--log-json`. -/
def logJsonVariable : String := "TRACEFILTER_LOG_JSON"

/-- The values of the variables of options that were not given at a level. -/
def ofEnvironment (env : Environment) (given : Given) : Except UsageFault Given := do
  let values ← standIns.foldlM
    (fun values v =>
      if given.has v.1 then .ok values
      else
        match env v.2 with
        | some word => values.put v.1 word
        | none => .ok values)
    Given.nothing
  match given.logJson?, env logJsonVariable with
  | none, some word => (truthOfWord word).map fun x => { values with logJson? := some x }
  | _, _ => .ok values

end TypedFilters
