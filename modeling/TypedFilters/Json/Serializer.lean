import TypedFilters.Json.Value

/-!
# Serialising data

Data are handed to the serializer part by part. A part may fail to be serialised, and then the whole fails
with the message of the first such part.
-/

namespace TypedFilters.Json

/-- What becomes of data that are serialised: a value, or the message of a failure. -/
abbrev Serialized := Except String Value

/-- A sequence of items. -/
def serializeItems {α : Type} (item : α → Serialized) (xs : List α) : Serialized :=
  (xs.mapM item).map .array

/-- A field of a structure under its name. -/
def serializeField (field : String × Serialized) : Except String (String × Value) :=
  field.2.map fun v => (field.1, v)

/-- A structure of named fields. -/
def serializeFields (fields : List (String × Serialized)) : Serialized :=
  (fields.mapM serializeField).map .object

/-- An optional part; `null` stands for an absent one. -/
def serializeOption {α : Type} (part : α → Serialized) : Option α → Serialized
  | some x => part x
  | none => .ok .null

end TypedFilters.Json
