import TypedFilters.FilterError
import TypedFilters.Json.Printer
import TypedFilters.Logging.Record

/-!
# Error reports

A refusal is reported to clients as a JSON object with a status. A bad request carries the code and
the message of the refusal, and its index and field where they are known; anything else is an internal
error.
-/

namespace TypedFilters

/-- What is reported to a client. -/
inductive Report where
  | badRequest (code message : String) (index? : Option Nat) (field? : Option String)
  | internal (message : String)
  deriving DecidableEq, Repr

namespace Report

/-- The report of a refusal; the place is told by members of its own and not by the message. -/
def ofError (e : FilterError) : Report :=
  .badRequest e.code e.fault.message e.index? e.field?

/-- The HTTP status. -/
def status : Report → Nat
  | badRequest _ _ _ _ => 400
  | internal _ => 500

/-- The HTTP status with its usual phrase. -/
def statusLine : Report → String
  | badRequest _ _ _ _ => "400 Bad Request"
  | internal _ => "500 Internal Server Error"

/-- A member that is left out when it is absent. -/
def optionalMember {α : Type} (name : String) (form : α → Json.Value) :
    Option α → List (String × Json.Value)
  | some x => [(name, form x)]
  | none => []

/-- The body of a report. -/
def body : Report → Json.Value
  | badRequest code message index? field? =>
    .object
      ([("error", .string "bad_request"), ("code", .string code), ("message", .string message)] ++
        optionalMember "index" (fun i => .number (.integer (i : Nat))) index? ++
        optionalMember "field" Json.Value.string field?)
  | internal message =>
    .object
      [("error", .string "internal_error"), ("code", .string "INTERNAL"),
        ("message", .string message)]

/-- The media type of a response. -/
def contentType : String := "application/json"

/-- The text of a response. -/
def responseText (r : Report) : String :=
  Json.compact r.body

/-- What is logged when a report is handed out; a refusal has been logged before. -/
def records (noticed : Noticed) : Report → List LogRecord
  | badRequest _ _ _ _ => []
  | internal message => [.internalError noticed message]

end Report

/-- What a client receives. -/
structure Response where
  status : Nat
  contentType : String
  text : String
  deriving DecidableEq, Repr

/-- The response with a report, and what is logged on the way. -/
def Report.respond (r : Report) : List LogRecord × Response :=
  (r.records .inResponse, ⟨r.status, contentType, r.responseText⟩)

end TypedFilters
