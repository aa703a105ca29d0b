import TypedFilters.FilterError
import TypedFilters.Json.Serializer

/-!
# Filters

A filter compares one field of an entity. `Filter.ofField` checks a filter whose value is still in its
transport encoding: the operator, the key and the presence of the value. `Filter.withValue` puts the
decoded value in its place and checks the format.
-/

namespace TypedFilters

/-- A predicate on one field of an entity. -/
structure Filter where
  entity : Entity
  field : Field
  operator : Operator
  key? : Option String
  value? : Option String
  deriving DecidableEq, Repr, Inhabited

namespace Filter

/-- The key of a filter on a field: present exactly if the kind of the field needs one. -/
def checkKey (kind : ValueKind) (key? : Option String) : Except FilterFault (Option String) :=
  match kind.needsKey, Text.nonBlank? key? with
  | true, none => .error .missingKey
  | false, some _ => .error (.unexpectedKey kind)
  | _, key => .ok key

/-- The value of a filter with an operator: none if the operator is nullary, and else required. -/
def checkPresence (op : Operator) (value? : Option String) : Except FilterFault (Option String) :=
  if op.isNullary then .ok none
  else
    match Text.nonBlank? value? with
    | some v => .ok (some v)
    | none => .error (.missingValue op)

/-- A filter on a field with a value that is not decoded yet. Blank keys and values count as absent. -/
def ofField (entity : Entity) (field : Field) (op : Operator) (key? value? : Option String) :
    Except FilterError Filter :=
  if !field.supports op then
    .error (.onField field.name (.unsupportedOperator op field.kind))
  else
    match checkKey field.kind key? with
    | .error fault => .error (.onField field.name fault)
    | .ok key =>
      match checkPresence op value? with
      | .error fault => .error (.onField field.name fault)
      | .ok value => .ok ⟨entity, field, op, key, value⟩

/-- A filter on the field that a text names, with a value that is not decoded yet. -/
def ofName (entity : Entity) (name : String) (op : Operator) (key? value? : Option String) :
    Except FilterError Filter :=
  match entity.field? name with
  | none => .error (.onField name (.unknownField name entity))
  | some field => ofField entity field op key? value?

/-- The filter with a decoded value in the form in which its kind keeps it. A nullary operator has no
use for a value. -/
def withValue (filter : Filter) (decoded : String) : Except FilterError Filter :=
  if filter.operator.isNullary then .ok filter
  else
    match filter.field.kind.normalize filter.field.choices decoded with
    | .ok value => .ok { filter with value? := some value }
    | .error fault => .error (.onField filter.field.name (.invalidValue filter.field.kind fault))

/-- A text, or `null` for an absent one. -/
def optionalText : Option String → Json.Value
  | some s => .string s
  | none => .null

/-- The JSON form of a filter. -/
def toJson (filter : Filter) : Json.Value :=
  .object
    [("entity", .string filter.entity.name), ("field", .string filter.field.name),
      ("operator", .string filter.operator.name), ("key", optionalText filter.key?),
      ("value", optionalText filter.value?)]

/-- A filter as it is serialised, field by field. -/
def serialize (filter : Filter) : Json.Serialized :=
  let text (s : String) : Json.Serialized := .ok (.string s)
  Json.serializeFields
    [("entity", text filter.entity.name), ("field", text filter.field.name),
      ("operator", text filter.operator.name), ("key", Json.serializeOption text filter.key?),
      ("value", Json.serializeOption text filter.value?)]

end Filter

end TypedFilters
