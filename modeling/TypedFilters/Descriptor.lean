import TypedFilters.Json.Fault
import TypedFilters.Json.Printer

/-!
# Descriptors

A descriptor is a filter as it is given on the wire: texts for field and operator, and a key and a
value that may be absent. It is an object with members of these names, or an array of them in this
order. A value may be given as a number or a truth value, whose JSON text then counts. A tagged
descriptor is an object that also names its entity.
-/

namespace TypedFilters

open Json (Value ShapeFault)

/-- A filter as it is given on the wire. -/
structure Descriptor where
  field : String
  operator : String
  key? : Option String
  value? : Option String
  deriving DecidableEq, Repr, Inhabited

namespace Descriptor

/-- A value that must be a string. -/
def text (v : Value) : Except ShapeFault String :=
  match v with
  | .string s => .ok s
  | v => .error (.wrongType v.found "a string")

/-- A value that must be a string or `null`. -/
def optionalText (v : Value) : Except ShapeFault (Option String) :=
  match v with
  | .null => .ok none
  | v => (text v).map some

/-- A value that must be a scalar, as text. -/
def scalarText (v : Value) : Except ShapeFault (Option String) :=
  match v with
  | .null => .ok none
  | .string s => .ok (some s)
  | .number n => .ok (some n.text)
  | .bool b => .ok (some (if b then "true" else "false"))
  | v => .error (.refused s!"filter value must be a string, got {Json.compact v}")

/-! ## Objects -/

/-- The members of a descriptor that have been read. -/
structure Draft where
  field? : Option String
  operator? : Option String
  key? : Option (Option String)
  value? : Option (Option String)
  deriving DecidableEq, Repr, Inhabited

/-- A draft without members. -/
def Draft.empty : Draft := ⟨none, none, none, none⟩

/-- The draft with one more member; a member of another name is passed over. -/
def Draft.add (draft : Draft) (name : String) (v : Value) : Except ShapeFault Draft :=
  if name = "field" then (text v).map fun s => { draft with field? := some s }
  else if name = "operator" then (text v).map fun s => { draft with operator? := some s }
  else if name = "key" then (optionalText v).map fun s => { draft with key? := some s }
  else if name = "value" then (scalarText v).map fun s => { draft with value? := some s }
  else .ok draft

/-- The descriptor of a draft; field and operator may not be missing. -/
def Draft.finish (draft : Draft) : Except ShapeFault Descriptor :=
  match draft.field?, draft.operator? with
  | none, _ => .error (.missingField "field")
  | _, none => .error (.missingField "operator")
  | some field, some operator => .ok ⟨field, operator, draft.key?.join, draft.value?.join⟩

/-- The descriptor with given members. -/
def ofMembers (members : List (String × Value)) : Except ShapeFault Descriptor := do
  let draft ← members.foldlM (fun draft m => draft.add m.1 m.2) Draft.empty
  draft.finish

/-! ## Arrays -/

/-- What an array of members is expected to be. -/
def arrayForm : String := "struct RawFilter with 4 elements"

/-- The descriptor with given items. -/
def ofItems (items : List Value) : Except ShapeFault Descriptor :=
  match items with
  | [] => .error (.wrongLength 0 arrayForm)
  | field :: rest => do
    let field ← text field
    match rest with
    | [] => .error (.wrongLength 1 arrayForm)
    | operator :: rest =>
      let operator ← text operator
      let key? ← match rest with
        | [] => .ok none
        | key :: _ => optionalText key
      let value? ← match rest.drop 1 with
        | [] => .ok none
        | value :: _ => scalarText value
      if 4 < items.length then .error (.wrongLength items.length "fewer elements in array")
      else .ok ⟨field, operator, key?, value?⟩

/-- The descriptor that a JSON value gives. -/
def ofValue (v : Value) : Except ShapeFault Descriptor :=
  match v with
  | .object members => ofMembers members
  | .array items => ofItems items
  | v => .error (.wrongType v.found "struct RawFilter")

/-! ## Tagged descriptors -/

/-- The name of the entity and the descriptor that a JSON value gives. -/
def taggedOfValue (v : Value) : Except ShapeFault (String × Descriptor) :=
  match v with
  | .object members => do
    let entity ← match v.member? "entity" with
      | some e => text e
      | none => .error (.missingField "entity")
    let descriptor ← ofMembers members
    .ok (entity, descriptor)
  | v => .error (.wrongType v.found "struct TaggedRawFilter")

end Descriptor

end TypedFilters
