import TypedFilters.Json.Reader
import TypedFilters.Json.Skip

/-!
# Reading typed data from JSON text

A reader of typed data takes what it expects directly from the text. Where it finds something of
another type it says so, at the place after a scalar and in front of an array or object. A fault that
concerns an object or array as a whole is placed behind its end, as far as the end can be seen.
-/

namespace TypedFilters.Json

/-- A fault of shape at the place of the text that is left. -/
def failShapeHere {α : Type} (fault : ShapeFault) (rest : List Char) : Except Failure α :=
  .error ⟨.shape fault, some (octetCount rest)⟩

/-- What stands at the front: a scalar is read, an array or object is left. -/
def foundAt : Reader Found
  | '[' :: rest => .ok (.array, '[' :: rest)
  | '{' :: rest => .ok (.object, '{' :: rest)
  | cs => (scalar cs).map fun (v, rest) => (v.found, rest)

/-- Failure for what stands at the front instead of something expected. -/
def unexpected {α : Type} (expected : String) (cs : List Char) : Except Failure α :=
  match foundAt cs with
  | .error e => .error e
  | .ok (found, rest) => failShapeHere (.wrongType found expected) rest

/-- A string. -/
def typedString (expected : String) : Reader String := fun cs =>
  match skipSpace cs with
  | '"' :: rest => string rest
  | cs => unexpected expected cs

/-- How a size is named in faults. -/
def sizeName : String := "usize"

/-- A natural number of at most 64 bits. -/
def typedSize : Reader Nat := fun cs =>
  match skipSpace cs with
  | [] => failHere .endInValue []
  | c :: rest =>
    if c = '-' ∨ Text.isDigit c then
      match number (c :: rest) with
      | .error e => .error e
      | .ok (.integer (.ofNat n), rest) => .ok (n, rest)
      | .ok (.integer i, rest) => failShapeHere (.wrongValue (.number (.integer i)) sizeName) rest
      | .ok (.float x, rest) => failShapeHere (.wrongType (.number (.float x)) sizeName) rest
    else unexpected sizeName (c :: rest)

/-- `null`, or what a reader takes. -/
def optional {α : Type} (reader : Reader α) : Reader (Option α) := fun cs =>
  match skipSpace cs with
  | 'n' :: rest => (word ['u', 'l', 'l'] rest).map fun rest => (none, rest)
  | cs => (reader cs).map fun (x, rest) => (some x, rest)

/-- `null`. -/
def typedNull : Reader Unit := fun cs =>
  match skipSpace cs with
  | [] => failHere .endInValue []
  | 'n' :: rest => (word ['u', 'l', 'l'] rest).map fun rest => ((), rest)
  | cs => unexpected "unit" cs

/-- The text behind the end of an object, if the end stands at the front. -/
def afterObject (cs : List Char) : List Char :=
  match skipSpace cs with
  | '}' :: rest => rest
  | cs => cs

/-- The text behind the end of an array, or behind a comma, if one of them stands at the front. -/
def afterArray (cs : List Char) : List Char :=
  match skipSpace cs with
  | ']' :: rest => rest
  | ',' :: rest => skipSpace rest
  | cs => cs

/-- The end of an array all of whose expected items have been read. -/
def endOfArray (cs : List Char) : Except Failure (List Char) :=
  match skipSpace cs with
  | [] => failHere .endInList []
  | ']' :: rest => .ok rest
  | ',' :: rest =>
    match skipSpace rest with
    | ']' :: rest => failNext .trailingComma (']' :: rest)
    | rest => failNext .trailingCharacters rest
  | rest => failNext .trailingCharacters rest

/-- The next item of an array that may end before it. -/
def itemOrEnd {α : Type} (first : Bool) (item : Reader α) : Reader (Option α) := fun cs =>
  match nextItem first cs with
  | .error e => .error e
  | .ok (.done rest) => .ok (none, rest)
  | .ok (.item rest) => (item rest).map fun (x, rest) => (some x, rest)

/-- An item of an array that has `position` items before it and must have it. -/
def requiredItem {α : Type} (expected : String) (position : Nat) (item : Reader α) : Reader α :=
  fun cs =>
    match itemOrEnd (position == 0) item cs with
    | .error e => .error e
    | .ok (none, rest) => failShapeHere (.wrongLength position expected) (afterArray rest)
    | .ok (some x, rest) => .ok (x, rest)

end TypedFilters.Json
