import TypedFilters.Descriptor
import TypedFilters.Entity
import TypedFilters.Json.Typed
import TypedFilters.Transport

/-!
# Names and descriptors as JSON texts

Operators, entities, encodings and descriptors can be read on their own from a JSON text. Such a text
is read directly, without a JSON value in between: a member that is given twice is refused, a member
that nobody asks for is only checked for its syntax, and faults have a position in the text.
-/

namespace TypedFilters

open Json (Reader Failure)

/-- A string that a look-up accepts as a name. -/
def readName {α : Type} (named? : String → Option α) (unknown : String → String) : Reader α :=
  fun cs =>
    match Json.typedString "a string" cs with
    | .error e => .error e
    | .ok (s, rest) =>
      match named? s with
      | some x => .ok (x, rest)
      | none => Json.failShape (.refused (unknown s))

/-- The operator that a JSON string names. -/
def Operator.ofJsonText (text : String) : Except Json.Error Operator :=
  Json.whole (readName Operator.named? Operator.unknownMessage) text

/-- The entity that a JSON string names. -/
def Entity.ofJsonText (text : String) : Except Json.Error Entity :=
  Json.whole (readName Entity.named? Entity.unknownMessage) text

/-! ## Encodings -/

namespace Encoding

/-- The name of an encoding after its opening quote. -/
def readVariant : Reader Encoding := fun cs =>
  match Json.string cs with
  | .error e => .error e
  | .ok (s, rest) =>
    match ofName? s with
    | some e => .ok (e, rest)
    | none => Json.failShapeHere (.unknownVariant s (all.map name)) rest

/-- An object after its opening bracket that has `null` under the name of an encoding, and no other
member. -/
def readMember : Reader Encoding := fun cs =>
  match Json.nextName true cs with
  | .error e => .error e
  | .ok (.done rest) => Json.failNext .expectedValue rest
  | .ok (.item rest) =>
    match readVariant rest with
    | .error e => .error e
    | .ok (encoding, rest) =>
      match Json.afterColon Json.typedNull rest with
      | .error e => .error e
      | .ok ((), rest) =>
        match Json.skipSpace rest with
        | [] => Json.failHere .endInObject []
        | '}' :: rest => .ok (encoding, rest)
        | rest => Json.failHere .expectedValue rest

/-- An encoding: its name, or an object with `null` under its name. -/
def read : Reader Encoding := fun cs =>
  match Json.skipSpace cs with
  | '"' :: rest => readVariant rest
  | '{' :: rest => readMember rest
  | [] => Json.failHere .endInValue []
  | rest => Json.failNext .expectedValue rest

/-- The encoding that a JSON text gives. -/
def ofJsonText (text : String) : Except Json.Error Encoding :=
  Json.whole read text

end Encoding

/-! ## Descriptors -/

namespace Descriptor

/-- A string that is expected as such. -/
def readText : Reader String :=
  Json.typedString "a string"

/-- The value of a descriptor. A value of the wrong form is reported behind the object or array around
it, whose end `close` passes. -/
def readScalar (close : List Char → List Char) : Reader (Option String) := fun cs =>
  match Json.value (Json.maxDepth - 1) cs with
  | .error e => .error e
  | .ok (v, rest) =>
    match scalarText v with
    | .error fault => Json.failShapeHere fault (close rest)
    | .ok s => .ok (s, rest)

/-- A member that may be given once: what its reader takes after the colon, put into the draft. -/
def readOnce {α : Type} (name : String) (given? : Option α) (item : Reader α) (put : α → Draft) :
    Reader Draft := fun cs =>
  if given?.isSome then Json.failShapeHere (.duplicateField name) (Json.afterObject cs)
  else (Json.afterColon item cs).map fun (x, rest) => (put x, rest)

/-- One member of a descriptor after its name. -/
def readMember (name : String) (draft : Draft) : Reader Draft := fun cs =>
  if name = "field" then
    readOnce name draft.field? readText (fun s => { draft with field? := some s }) cs
  else if name = "operator" then
    readOnce name draft.operator? readText (fun s => { draft with operator? := some s }) cs
  else if name = "key" then
    readOnce name draft.key? (Json.optional readText) (fun s => { draft with key? := some s }) cs
  else if name = "value" then
    readOnce name draft.value? (readScalar Json.afterObject)
      (fun s => { draft with value? := some s }) cs
  else
    match Json.colon cs with
    | .error e => .error e
    | .ok rest => (Json.skipValue rest).map fun rest => (draft, rest)

/-- The items of a descriptor after its opening bracket. -/
def readItems : Reader Descriptor := fun cs => do
  let (field, cs) ← Json.requiredItem arrayForm 0 readText cs
  let (operator, cs) ← Json.requiredItem arrayForm 1 readText cs
  let (key?, cs) ← Json.itemOrEnd false (Json.optional readText) cs
  let (value?, cs) ← Json.itemOrEnd false (readScalar Json.afterArray) cs
  let cs ← Json.endOfArray cs
  .ok (⟨field, operator, key?.join, value?.join⟩, cs)

/-- A descriptor. -/
def read : Reader Descriptor := fun cs =>
  match Json.skipSpace cs with
  | [] => Json.failHere .endInValue []
  | '[' :: rest => readItems rest
  | '{' :: rest =>
    match Json.members readMember (rest.length + 1) Draft.empty true rest with
    | .error e => .error e
    | .ok (draft, rest) =>
      match draft.finish with
      | .error fault => Json.failShapeHere fault rest
      | .ok d => .ok (d, rest)
  | rest => Json.unexpected "struct RawFilter" rest

/-- The descriptor that a JSON text gives. -/
def ofJsonText (text : String) : Except Json.Error Descriptor :=
  Json.whole read text

end Descriptor

end TypedFilters
