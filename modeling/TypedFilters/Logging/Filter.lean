import TypedFilters.Logging.Record
import TypedFilters.Text.Alphanumeric
import TypedFilters.Text.Blank
import TypedFilters.Text.Split

/-!
# Log filters

A log filter is a list of directives between commas. A directive sets the most detailed level that is
let through, for all records or for those whose target begins with a text, and perhaps only for records
that have a detail of some name. Of the directives that apply to a record the most specific one
decides. What cannot be read as a directive is passed over, and without any directive only errors are
let through.
-/

namespace TypedFilters

namespace LogLevel

/-- The level of a number. -/
def ofRank? : Nat → Option LogLevel
  | 0 => some off
  | 1 => some error
  | 2 => some warn
  | 3 => some info
  | 4 => some debug
  | 5 => some trace
  | _ => none

/-- The level that a word names, whatever its case, or that a number names, after a plus or not. -/
def named? (text : String) : Option LogLevel :=
  match Text.lower text with
  | "off" => some off
  | "error" => some error
  | "warn" => some warn
  | "info" => some info
  | "debug" => some debug
  | "trace" => some trace
  | number => (Text.natural? number.toList).bind ofRank?

end LogLevel

/-- A level for the records whose target begins with a text, and which have a detail of a name if one
is given. -/
structure LogDirective where
  target : String
  detail? : Option String
  level : LogLevel
  deriving DecidableEq, Repr

namespace LogDirective

/-! ## Reading -/

/-- A character that a target may begin with. -/
def startsTarget (c : Char) : Bool :=
  Text.isAlphanumeric c || c == '-' || c == ':' || c == '_'

/-- A directive without a level in it: a level for all records, or a target with all levels. -/
def ofWord (text : String) : LogDirective :=
  match LogLevel.named? text with
  | some level => ⟨"", none, level⟩
  | none => ⟨text, none, .trace⟩

/-- The level after an equals sign. Without one, all levels are let through. -/
def levelAfter? : List Char → Option LogLevel
  | ['='] => some .trace
  | '=' :: word => LogLevel.named? (String.ofList word)
  | rest => if rest.all Text.isBlankChar then some .trace else none

/-- The name of a detail in braces and brackets, and what follows it. Brackets that hold something else
concern spans, of which no record is part. -/
def bracketed? : List Char → Option (String × List Char)
  | '[' :: '{' :: cs =>
    let name := cs.takeWhile (· ≠ '}')
    match cs.drop name.length with
    | '}' :: ']' :: rest =>
      if name.isEmpty || name.contains '=' then none else some (String.ofList name, rest)
    | _ => none
  | _ => none

/-- A directive on a target, which is followed by a detail, a level, or both. -/
def onTarget? (target : String) (cs : List Char) : Option LogDirective :=
  match cs with
  | '[' :: _ => do
    let (detail, rest) ← bracketed? cs
    let level ← levelAfter? rest
    some ⟨target, some detail, level⟩
  | _ => (levelAfter? cs).map fun level => ⟨target, none, level⟩

/-- The directive that a text is: a level, or a target, a detail and a level, each of which may be left
out. A text that begins with a blank is a directive for no record. -/
def ofText? (text : String) : Option LogDirective :=
  match text.toList with
  | [] => none
  | '[' :: cs => onTarget? "" ('[' :: cs)
  | c :: cs =>
    if startsTarget c then
      let target := (c :: cs).takeWhile fun c => c ≠ '=' && c ≠ '['
      match (c :: cs).drop target.length with
      | [] => some (ofWord text)
      | rest => onTarget? (String.ofList target) rest
    else none

/-! ## Choosing -/

/-- A directive applies to the records whose target begins with its own and which have its detail. -/
def applies (d : LogDirective) (r : LogRecord) : Bool :=
  d.target.toList.isPrefixOf r.target.toList && d.detail?.all r.hasDetail

/-- The order in which directives decide: by the length of the target, then by the detail. -/
def atMost (d e : LogDirective) : Bool :=
  d.target.length < e.target.length ||
    d.target.length == e.target.length &&
      match d.detail?, e.detail? with
      | none, _ => true
      | some _, none => false
      | some a, some b => a ≤ b

end LogDirective

/-- The level that directives let through for a record: that of the most specific directive that
applies, the last one if there are several. -/
def admittedLevel (r : LogRecord) (directives : List LogDirective) : LogLevel :=
  let best? := (directives.filter fun d => d.applies r).foldl
    (fun (best? : Option LogDirective) d =>
      match best? with
      | some best => if best.atMost d then some d else best?
      | none => some d)
    none
  match best? with
  | some d => d.level
  | none => .off

/-- The directives of a log filter. -/
def logDirectives (text : String) : List LogDirective :=
  let read := ((Text.split ',' text).filter fun t => !t.isEmpty).filterMap LogDirective.ofText?
  if read.isEmpty then [⟨"", none, .error⟩] else read

/-- A log filter lets a record through. -/
def admitsRecord (filterText : String) (r : LogRecord) : Bool :=
  r.level.rank ≤ (admittedLevel r (logDirectives filterText)).rank

end TypedFilters
