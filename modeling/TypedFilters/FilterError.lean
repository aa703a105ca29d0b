import TypedFilters.Catalogue
import TypedFilters.Json.Fault
import TypedFilters.Transport
import TypedFilters.ValueFormat

/-!
# Rejections

Every way in which a filter or a list of filters can be refused, with a stable code and a message. A
`FilterError` adds where it happened: the index of the descriptor in its list, and the field.
-/

namespace TypedFilters

/-- Why a filter or a list of filters is refused. -/
inductive FilterFault where
  | unsupportedOperator (op : Operator) (kind : ValueKind)
  | missingKey
  | unexpectedKey (kind : ValueKind)
  | missingValue (op : Operator)
  | invalidValue (kind : ValueKind) (fault : ValueFault)
  | unknownField (name : String) (entity : Entity)
  | unknownOperator (name : String)
  | unknownEntity (name : String)
  | undecodable (fault : DecodeFault)
  | textTooLarge (limit : Nat)
  | tooManyFilters (limit : Nat)
  | invalidJson (error : Json.Error)
  deriving DecidableEq, Repr

namespace FilterFault

/-- The stable code of a refusal. -/
def code : FilterFault → String
  | unsupportedOperator _ _ => "UNSUPPORTED_OPERATOR"
  | missingKey => "MISSING_KEY"
  | unexpectedKey _ => "UNEXPECTED_KEY"
  | missingValue _ => "MISSING_VALUE"
  | invalidValue _ _ => "INVALID_VALUE_FORMAT"
  | unknownField _ _ => "UNKNOWN_FIELD"
  | unknownOperator _ => "UNKNOWN_OPERATOR"
  | unknownEntity _ => "UNKNOWN_ENTITY"
  | undecodable _ => "DECODE_FAILURE"
  | textTooLarge _ => "FILTER_JSON_TOO_LARGE"
  | tooManyFilters _ => "TOO_MANY_FILTERS"
  | invalidJson _ => "INVALID_FILTER_JSON"

/-- What is said of a refusal. -/
def message : FilterFault → String
  | unsupportedOperator op kind =>
    s!"operator '{op.name}' is not supported for {kind.name} fields"
  | missingKey => "key is required for dictionary fields"
  | unexpectedKey kind => s!"key is not allowed for {kind.name} fields"
  | missingValue op => s!"value is required for operator '{op.name}'"
  | invalidValue kind fault => s!"invalid {kind.name} value: {fault.message}"
  | unknownField name entity => s!"unknown field '{name}' for {entity.name}"
  | unknownOperator name => s!"unknown operator '{name}'"
  | unknownEntity name => s!"unknown entity '{name}'"
  | undecodable fault => s!"failed to decode value: {fault.message}"
  | textTooLarge limit => s!"filter JSON exceeds maximum size of {limit} bytes"
  | tooManyFilters limit => s!"maximum {limit} filters allowed"
  | invalidJson error => s!"invalid filter JSON: {error.message}"

end FilterFault

/-- A refusal, with the index of the descriptor and the field as far as they are known. -/
structure FilterError where
  fault : FilterFault
  index? : Option Nat
  field? : Option String
  deriving DecidableEq, Repr

namespace FilterError

/-- A refusal of which no place is known. -/
def ofFault (fault : FilterFault) : FilterError :=
  ⟨fault, none, none⟩

/-- A refusal on a field. -/
def onField (field : String) (fault : FilterFault) : FilterError :=
  ⟨fault, none, some field⟩

/-- The refusal with the index of its descriptor. -/
def atIndex (index : Nat) (e : FilterError) : FilterError :=
  { e with index? := some index }

/-- The stable code. -/
def code (e : FilterError) : String :=
  e.fault.code

/-- The message with the place in front. -/
def message (e : FilterError) : String :=
  match e.index?, e.field? with
  | some i, some field => s!"filter {i} ({field}): {e.fault.message}"
  | some i, none => s!"filter {i}: {e.fault.message}"
  | none, some field => s!"{field}: {e.fault.message}"
  | none, none => e.fault.message

end FilterError

end TypedFilters
