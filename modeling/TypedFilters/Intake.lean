import TypedFilters.Descriptor
import TypedFilters.Filter
import TypedFilters.Json.Typed
import TypedFilters.Logging.Record

/-!
# Taking in lists of filters

A list of filters is taken in as a whole or refused as a whole. Its text is checked for its size, its
syntax and the number of its items; then its items are resolved one after the other, and the first one
that is refused decides. Items stay JSON values until it is their turn, so a refusal never depends on
what comes after it. What has come of the items is logged; a list that is refused before its items are
resolved is not.
-/

namespace TypedFilters

/-- Limits on a list. -/
structure Limits where
  maxFilters : Nat
  maxJsonBytes : Nat
  deriving DecidableEq, Repr

/-- Fifty filters in at most 64 KiB. -/
def Limits.standard : Limits := ⟨50, 65536⟩

/-- How lists are taken in: the decoder of values and the limits. -/
structure Intake where
  decode : ValueKind → String → Except DecodeFault String
  limits : Limits

namespace Intake

/-- Values in a transport encoding, with date-times of a zone. -/
def ofEncoding (encoding : Encoding) (zone : Zone) (limits : Limits) : Intake :=
  ⟨encoding.decode zone, limits⟩

/-! ## One descriptor -/

/-- The filter that a descriptor gives for an entity: its names are looked up, its parts checked on
the value as it is written, and then the value is decoded and its format checked. -/
def resolve (intake : Intake) (entity : Entity) (d : Descriptor) : Except FilterError Filter := do
  let op ← match Operator.named? d.operator with
    | some op => .ok op
    | none => .error (FilterError.onField d.field (.unknownOperator d.operator))
  let filter ← Filter.ofName entity d.field op d.key? d.value?
  match filter.value? with
  | none => .ok filter
  | some raw =>
    match intake.decode filter.field.kind raw with
    | .ok decoded => filter.withValue decoded
    | .error fault => .error (.onField filter.field.name (.undecodable fault))

/-- The refusal of a JSON value that does not have the form of a descriptor. Its field is named as far
as it can be seen. -/
def misshapen (item : Json.Value) (fault : Json.ShapeFault) : FilterError :=
  ⟨.invalidJson ⟨.shape fault, none⟩, none, (item.member? "field").bind Json.Value.string?⟩

/-- The filter that an item of a list gives for an entity. -/
def resolveItem (intake : Intake) (entity : Entity) (item : Json.Value) :
    Except FilterError Filter :=
  match Descriptor.ofValue item with
  | .error fault => .error (misshapen item fault)
  | .ok d => intake.resolve entity d

/-- The filter that an item of a list gives for the entity that it names. -/
def resolveTagged (intake : Intake) (item : Json.Value) : Except FilterError Filter :=
  match Descriptor.taggedOfValue item with
  | .error fault => .error (misshapen item fault)
  | .ok (name, d) =>
    match Entity.named? name with
    | none => .error (.ofFault (.unknownEntity name))
    | some entity => intake.resolve entity d

/-! ## Whole lists -/

/-- The results for all items in order, from an index on; the first refusal decides and gets the index
of its item. -/
def resolveAll {α : Type} (one : α → Except FilterError Filter) :
    Nat → List α → Except FilterError (List Filter)
  | _, [] => .ok []
  | index, x :: rest =>
    match one x with
    | .error e => .error (e.atIndex index)
    | .ok filter =>
      match resolveAll one (index + 1) rest with
      | .error e => .error e
      | .ok filters => .ok (filter :: filters)

/-- A list that has no more items than the limit. -/
def checkCount {α : Type} (intake : Intake) (items : List α) : Except FilterError (List α) :=
  if intake.limits.maxFilters < items.length then
    .error (.ofFault (.tooManyFilters intake.limits.maxFilters))
  else .ok items

/-- The items of a text that is a JSON array. -/
def arrayItems : Json.Reader (List Json.Value) := fun cs =>
  match Json.skipSpace cs with
  | '[' :: rest => Json.items (Json.value (Json.maxDepth - 1)) (rest.length + 1) [] true rest
  | cs => Json.unexpected "a sequence" cs

/-- The items of the text of a list, after the checks of the list as a whole. A blank text is the
empty list. -/
def readList (intake : Intake) (text : String) : Except FilterError (List Json.Value) :=
  if intake.limits.maxJsonBytes < text.utf8ByteSize then
    .error (.ofFault (.textTooLarge intake.limits.maxJsonBytes))
  else if Text.isBlank text then .ok []
  else
    match Json.whole arrayItems text with
    | .error e => .error (.ofFault (.invalidJson e))
    | .ok items => intake.checkCount items

/-- What is logged about the result for the items of a list. -/
def outcomeRecords (entity? : Option Entity) : Except FilterError (List Filter) → List LogRecord
  | .ok _ => []
  | .error e => [.rejectedList entity? e]

/-- The result for the items of a list, with what is logged about it. -/
def logOutcome (entity? : Option Entity) (result : Except FilterError (List Filter)) :
    List LogRecord × Except FilterError (List Filter) :=
  (outcomeRecords entity? result, result)

/-- The filters of a text, all for one entity, with what is logged. -/
def parseLogged (intake : Intake) (entity : Entity) (text : String) :
    List LogRecord × Except FilterError (List Filter) :=
  match intake.readList text with
  | .error e => ([], .error e)
  | .ok items => logOutcome (some entity) (resolveAll (intake.resolveItem entity) 0 items)

/-- The filters of a text, each for the entity that it names, with what is logged. -/
def parseTaggedLogged (intake : Intake) (text : String) :
    List LogRecord × Except FilterError (List Filter) :=
  match intake.readList text with
  | .error e => ([], .error e)
  | .ok items => logOutcome none (resolveAll intake.resolveTagged 0 items)

/-- The filters of descriptors, all for one entity, with what is logged. -/
def ofDescriptorsLogged (intake : Intake) (entity : Entity) (descriptors : List Descriptor) :
    List LogRecord × Except FilterError (List Filter) :=
  match intake.checkCount descriptors with
  | .error e => ([], .error e)
  | .ok descriptors => logOutcome (some entity) (resolveAll (intake.resolve entity) 0 descriptors)

/-- The filters of a text, all for one entity. -/
def parse (intake : Intake) (entity : Entity) (text : String) : Except FilterError (List Filter) :=
  (intake.parseLogged entity text).2

/-- The filters of a text, each for the entity that it names. -/
def parseTagged (intake : Intake) (text : String) : Except FilterError (List Filter) :=
  (intake.parseTaggedLogged text).2

/-- The filters of descriptors, all for one entity. -/
def ofDescriptors (intake : Intake) (entity : Entity) (descriptors : List Descriptor) :
    Except FilterError (List Filter) :=
  (intake.ofDescriptorsLogged entity descriptors).2

end Intake

end TypedFilters
