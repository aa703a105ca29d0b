import TypedFilters.Catalogue
import TypedFilters.FilterError
import TypedFilters.Json.Printer

/-!
# Log records

Two things are worth a warning: a settings file with members that nobody knows, and a list of filters
that one of its descriptors spoils. What should not happen is logged as an error: a mistake in the tables
of fields, and a failure to write what a client has asked for. Records of a more detailed level are left out.
-/

namespace TypedFilters

/-- How detailed a log is; the levels are numbered from none to the most detailed. -/
inductive LogLevel where
  | off
  | error
  | warn
  | info
  | debug
  | trace
  deriving DecidableEq, Repr

namespace LogLevel

/-- The number of a level. -/
def rank : LogLevel → Nat
  | off => 0
  | error => 1
  | warn => 2
  | info => 3
  | debug => 4
  | trace => 5

/-- How a level is written in records. -/
def name : LogLevel → String
  | off => "OFF"
  | error => "ERROR"
  | warn => "WARN"
  | info => "INFO"
  | debug => "DEBUG"
  | trace => "TRACE"

end LogLevel

/-- Where an internal error is noticed. -/
inductive Noticed where
  | inRun
  | inResponse
  deriving DecidableEq, Repr

/-- A warning or an error. -/
inductive LogRecord where
  | unknownSettings (names : List String)
  | rejectedList (entity? : Option Entity) (error : FilterError)
  | invalidTable (fault : TableFault)
  | internalError (noticed : Noticed) (text : String)
  deriving DecidableEq, Repr

namespace LogRecord

/-- The level of a record. -/
def level : LogRecord → LogLevel
  | unknownSettings _ | rejectedList _ _ => .warn
  | invalidTable _ | internalError _ _ => .error

/-- The part of the program that a record comes from, by which log filters choose. -/
def target : LogRecord → String
  | unknownSettings _ => "tracefilter::core::config"
  | rejectedList _ _ => "tracefilter::filters::parser"
  | invalidTable _ => "tracefilter::filters::schema"
  | internalError .inRun _ => "tracefilter::app"
  | internalError .inResponse _ => "tracefilter::api::types"

/-- What a record says. The text of an internal error stands in the place of a message. -/
def message : LogRecord → String
  | unknownSettings _ => "Unknown fields in config file (possible typos)"
  | rejectedList _ _ => "Rejected filter list"
  | invalidTable _ => "Filter schema is invalid"
  | internalError _ text => text

/-- Something that may be unknown. -/
def optionalText (text? : Option String) : String :=
  match text? with
  | some t => s!"Some({t})"
  | none => "None"

/-- The details of a record. -/
def details : LogRecord → List (String × String)
  | unknownSettings names => [("fields", ", ".intercalate names)]
  | rejectedList entity? e =>
    [("entity", (entity?.map Entity.name).getD "mixed"), ("code", e.code),
      ("index", optionalText (e.index?.map toString)),
      ("field", optionalText (e.field?.map Text.quoted)), ("error", e.fault.message)]
  | invalidTable fault => [("error", fault.message)]
  | internalError _ _ => []

/-- The name under which the message is found among the details. -/
def messageName : String := "message"

/-- A record has a detail of a name; its message is one. -/
def hasDetail (r : LogRecord) (name : String) : Bool :=
  name == messageName || r.details.any fun d => d.1 == name

/-- The JSON form of a record, without its time. -/
def toJson (r : LogRecord) : Json.Value :=
  .object
    [("level", .string r.level.name),
      ("fields", .object
        ((messageName, .string r.message) :: r.details.map fun d => (d.1, .string d.2)))]

end LogRecord

end TypedFilters
