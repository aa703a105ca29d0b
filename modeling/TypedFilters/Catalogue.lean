import TypedFilters.Entity
import TypedFilters.ValueKind

/-!
# The catalogue of filterable fields

Each entity has a table of fields in a fixed order (`Entity.fields`). Look-ups of a field go through the
table (`Entity.field?`), and what is published of an entity describes the fields of the table one by one
(`Entity.published`). `Entity.tableFault?` looks for a mistake in what is published.
-/

namespace TypedFilters

/-- One filterable field: its wire name, its kind and, for an enumeration, the admitted values. -/
structure Field where
  name : String
  kind : ValueKind
  choices : List String
  deriving DecidableEq, Repr, Inhabited

namespace Field

/-- The operators that the field permits are those of its kind. -/
def operators (field : Field) : List Operator :=
  field.kind.operators

/-- A field supports the operators that its kind permits. -/
def supports (field : Field) (op : Operator) : Bool :=
  field.kind.permits op

/-- A field needs a key when its kind does. -/
def needsKey (field : Field) : Bool :=
  field.kind.needsKey

end Field

namespace Entity

/-- The fields of an entity, in the order of declaration. -/
def fields : Entity → List Field
  | prompts =>
    [⟨"id", .string, []⟩, ⟨"name", .string, []⟩, ⟨"description", .string, []⟩,
      ⟨"template_structure", .enum, ["text", "chat"]⟩, ⟨"tags", .list, []⟩,
      ⟨"version_count", .number, []⟩, ⟨"created_at", .dateTime, []⟩,
      ⟨"last_updated_at", .dateTime, []⟩, ⟨"created_by", .string, []⟩,
      ⟨"last_updated_by", .string, []⟩]
  | traces =>
    [⟨"id", .string, []⟩, ⟨"name", .string, []⟩, ⟨"start_time", .dateTime, []⟩,
      ⟨"end_time", .dateTime, []⟩, ⟨"input", .string, []⟩, ⟨"output", .string, []⟩,
      ⟨"input_json", .dictionary, []⟩, ⟨"output_json", .dictionary, []⟩,
      ⟨"metadata", .dictionary, []⟩, ⟨"tags", .list, []⟩, ⟨"thread_id", .string, []⟩,
      ⟨"created_by", .string, []⟩, ⟨"feedback_scores", .dictionary, []⟩,
      ⟨"usage", .dictionary, []⟩, ⟨"usage.total_tokens", .number, []⟩, ⟨"duration", .number, []⟩,
      ⟨"total_estimated_cost", .number, []⟩, ⟨"llm_span_count", .number, []⟩,
      ⟨"error_info", .string, []⟩]
  | spans =>
    [⟨"id", .string, []⟩, ⟨"name", .string, []⟩, ⟨"start_time", .dateTime, []⟩,
      ⟨"end_time", .dateTime, []⟩, ⟨"input", .string, []⟩, ⟨"output", .string, []⟩,
      ⟨"input_json", .dictionary, []⟩, ⟨"output_json", .dictionary, []⟩,
      ⟨"metadata", .dictionary, []⟩, ⟨"model", .string, []⟩, ⟨"provider", .string, []⟩,
      ⟨"type", .enum, ["general", "tool", "llm", "guardrail"]⟩, ⟨"tags", .list, []⟩,
      ⟨"feedback_scores", .dictionary, []⟩, ⟨"usage", .dictionary, []⟩,
      ⟨"usage.prompt_tokens", .number, []⟩, ⟨"usage.completion_tokens", .number, []⟩,
      ⟨"usage.total_tokens", .number, []⟩, ⟨"duration", .number, []⟩,
      ⟨"total_estimated_cost", .number, []⟩, ⟨"error_info", .string, []⟩]
  | threads =>
    [⟨"id", .string, []⟩, ⟨"first_message", .string, []⟩, ⟨"last_message", .string, []⟩,
      ⟨"number_of_messages", .number, []⟩, ⟨"duration", .number, []⟩,
      ⟨"created_at", .dateTime, []⟩, ⟨"last_updated_at", .dateTime, []⟩,
      ⟨"start_time", .dateTime, []⟩, ⟨"end_time", .dateTime, []⟩,
      ⟨"status", .enum, ["active", "inactive"]⟩, ⟨"tags", .list, []⟩,
      ⟨"feedback_scores", .dictionary, []⟩]
  | experiments =>
    [⟨"id", .string, []⟩, ⟨"name", .string, []⟩, ⟨"dataset_id", .string, []⟩,
      ⟨"prompt_ids", .string, []⟩, ⟨"metadata", .dictionary, []⟩,
      ⟨"feedback_scores", .dictionary, []⟩, ⟨"tags", .list, []⟩, ⟨"created_at", .dateTime, []⟩]
  | datasets =>
    [⟨"id", .string, []⟩, ⟨"name", .string, []⟩, ⟨"description", .string, []⟩, ⟨"tags", .list, []⟩,
      ⟨"created_at", .dateTime, []⟩, ⟨"last_updated_at", .dateTime, []⟩,
      ⟨"created_by", .string, []⟩]
  | projects =>
    [⟨"id", .string, []⟩, ⟨"name", .string, []⟩, ⟨"created_by", .string, []⟩,
      ⟨"created_at", .dateTime, []⟩, ⟨"last_updated_at", .dateTime, []⟩]

/-- The field whose wire name is the trimmed text; case matters. -/
def field? (entity : Entity) (text : String) : Option Field :=
  let given := Text.trim text
  entity.fields.find? fun f => f.name == given

end Entity

/-! ## What is published -/

/-- What is published of a field. -/
structure FieldInfo where
  name : String
  kind : ValueKind
  operators : List Operator
  choices : List String
  needsKey : Bool
  deriving DecidableEq, Repr

/-- The description of a field. -/
def Field.describe (field : Field) : FieldInfo :=
  ⟨field.name, field.kind, field.operators, field.choices, field.needsKey⟩

/-- The published catalogue of an entity, in the order of declaration. -/
def Entity.published (entity : Entity) : List FieldInfo :=
  entity.fields.map Field.describe

/-! ## Checking the tables -/

/-- A mistake in what is published of an entity. -/
inductive TableFault where
  | duplicateName (entity : Entity) (info : FieldInfo)
  | noOperators (entity : Entity) (info : FieldInfo)
  | noChoices (entity : Entity) (info : FieldInfo)
  | strayChoices (entity : Entity) (info : FieldInfo)
  deriving DecidableEq, Repr

/-- What is said of a mistake in a table. -/
def TableFault.message : TableFault → String
  | duplicateName e f => s!"{e.name}.{f.name}: duplicate wire name"
  | noOperators e f => s!"{e.name}.{f.name}: no permitted operators"
  | noChoices e f => s!"{e.name}.{f.name}: enum field without values"
  | strayChoices e f => s!"{e.name}.{f.name}: {f.kind.name} field declares enum values"

/-- The first mistake in descriptions, given the names that precede them. -/
def Entity.firstFault? (entity : Entity) : List String → List FieldInfo → Option TableFault
  | _, [] => none
  | seen, info :: rest =>
    if info.name ∈ seen then some (.duplicateName entity info)
    else if info.operators.isEmpty then some (.noOperators entity info)
    else if info.kind == .enum && info.choices.isEmpty then some (.noChoices entity info)
    else if info.kind != .enum && !info.choices.isEmpty then some (.strayChoices entity info)
    else entity.firstFault? (info.name :: seen) rest

/-- The first mistake in what is published of an entity. -/
def Entity.tableFault? (entity : Entity) : Option TableFault :=
  entity.firstFault? [] entity.published

/-- The first mistake in any table. -/
def catalogueFault? : Option TableFault :=
  Entity.all.findSome? Entity.tableFault?

end TypedFilters
