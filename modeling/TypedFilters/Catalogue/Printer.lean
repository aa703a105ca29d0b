import TypedFilters.Catalogue
import TypedFilters.Json.Printer
import TypedFilters.Json.Serializer

/-!
# The catalogue as JSON

The published form of a field tells its kind, its operators, the admitted values of an enumeration and
whether a key is needed.
-/

namespace TypedFilters

/-- The JSON form of what is published of a field. -/
def FieldInfo.toJson (info : FieldInfo) : Json.Value :=
  let choices : List (String × Json.Value) :=
    if info.choices.isEmpty then [] else [("enum_values", .array (info.choices.map .string))]
  .object
    ([("name", .string info.name), ("kind", .string info.kind.name),
      ("operators", .array (info.operators.map fun op => .string op.name))] ++ choices ++
      [("requires_key", .bool info.needsKey)])

/-- What is published of a field as it is serialised, part by part. -/
def FieldInfo.serialize (info : FieldInfo) : Json.Serialized :=
  let text (s : String) : Json.Serialized := .ok (.string s)
  let choices : List (String × Json.Serialized) :=
    if info.choices.isEmpty then [] else [("enum_values", Json.serializeItems text info.choices)]
  Json.serializeFields
    ([("name", text info.name), ("kind", text info.kind.name),
      ("operators", Json.serializeItems (fun op => text op.name) info.operators)] ++ choices ++
      [("requires_key", .ok (.bool info.needsKey))])

/-- The published catalogue of an entity as JSON. -/
def Entity.catalogue (entity : Entity) : Json.Value :=
  .array (entity.published.map FieldInfo.toJson)

end TypedFilters
