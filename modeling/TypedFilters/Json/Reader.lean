import TypedFilters.Json.Number

/-!
# Reading JSON values

`Json.value` reads one value from the front of a text, down to a given depth of nesting, and
`Json.document` reads a text that is one value. An object that gives a name again keeps the last
value. The readers of lists and objects are given the reader of what they hold, so they serve for
values and, in `TypedFilters.Json.Typed`, for other things.
-/

namespace TypedFilters.Json

/-- How deep arrays and objects may nest. -/
def maxDepth : Nat := 127

/-! ## Lists -/

/-- What comes next in a list: its end, or an item. -/
inductive Next where
  | done (rest : List Char)
  | item (rest : List Char)

/-- The step to the next item of a list: the end of the list is left unread, a comma is passed. -/
def nextItem (first : Bool) (cs : List Char) : Except Failure Next :=
  match skipSpace cs with
  | [] => failHere .endInList []
  | ']' :: rest => .ok (.done (']' :: rest))
  | ',' :: rest =>
    if first then .ok (.item (',' :: rest))
    else
      match skipSpace rest with
      | [] => failHere .endInValue []
      | ']' :: rest => failNext .trailingComma (']' :: rest)
      | rest => .ok (.item rest)
  | rest => if first then .ok (.item rest) else failNext .expectedListEnd rest

/-- The items of a list up to and with its end; `read` holds those read so far, the last one first.
The bound is on the number of items. -/
def items {α : Type} (item : Reader α) : Nat → List α → Bool → Reader (List α)
  | 0, _, _, _ => failHere .endInList []
  | n + 1, read, first, cs =>
    match nextItem first cs with
    | .error e => .error e
    | .ok (.done rest) => .ok (read.reverse, rest.drop 1)
    | .ok (.item rest) =>
      match item rest with
      | .error e => .error e
      | .ok (x, rest) => items item n (x :: read) false rest

/-! ## Objects -/

/-- The step to the next name of an object: its end is left unread, a comma and the opening quote of
the name are passed. -/
def nextName (first : Bool) (cs : List Char) : Except Failure Next :=
  match skipSpace cs with
  | [] => failHere .endInObject []
  | '}' :: rest => .ok (.done ('}' :: rest))
  | ',' :: rest =>
    if first then failNext .keyNotString (',' :: rest)
    else
      match skipSpace rest with
      | [] => failHere .endInValue []
      | '"' :: rest => .ok (.item rest)
      | '}' :: rest => failNext .trailingComma ('}' :: rest)
      | rest => failNext .keyNotString rest
  | '"' :: rest => if first then .ok (.item rest) else failNext .expectedObjectEnd ('"' :: rest)
  | rest => if first then failNext .keyNotString rest else failNext .expectedObjectEnd rest

/-- The colon between a name and its value. -/
def colon (cs : List Char) : Except Failure (List Char) :=
  match skipSpace cs with
  | [] => failHere .endInObject []
  | ':' :: rest => .ok rest
  | rest => failNext .expectedColon rest

/-- The members of an object up to and with its end. `member` reads the colon and the value after a
name and adds them to what has been read so far. The bound is on the number of members. -/
def members {σ : Type} (member : String → σ → Reader σ) : Nat → σ → Bool → Reader σ
  | 0, _, _, _ => failHere .endInObject []
  | n + 1, state, first, cs =>
    match nextName first cs with
    | .error e => .error e
    | .ok (.done rest) => .ok (state, rest.drop 1)
    | .ok (.item rest) =>
      match string rest with
      | .error e => .error e
      | .ok (name, rest) =>
        match member name state rest with
        | .error e => .error e
        | .ok (state, rest) => members member n state false rest

/-! ## Values -/

/-- A value that is no array and no object, by its first character. -/
def scalar : Reader Value
  | [] => failHere .endInValue []
  | 'n' :: rest => (word ['u', 'l', 'l'] rest).map fun rest => (.null, rest)
  | 't' :: rest => (word ['r', 'u', 'e'] rest).map fun rest => (.bool true, rest)
  | 'f' :: rest => (word ['a', 'l', 's', 'e'] rest).map fun rest => (.bool false, rest)
  | '"' :: rest => (string rest).map fun (s, rest) => (.string s, rest)
  | c :: rest =>
    if c = '-' ∨ Text.isDigit c then (number (c :: rest)).map fun (n, rest) => (.number n, rest)
    else failNext .expectedValue (c :: rest)

/-- What a reader takes after a colon. -/
def afterColon {α : Type} (item : Reader α) : Reader α := fun cs =>
  match colon cs with
  | .error e => .error e
  | .ok rest => item rest

/-- A member added in front of those read before it. -/
def addMember {α : Type} (item : Reader α) (name : String) (read : List (String × α)) :
    Reader (List (String × α)) := fun cs =>
  (afterColon item cs).map fun (x, rest) => ((name, x) :: read, rest)

/-- A value in which arrays and objects nest to at most the given depth. -/
def value (depth : Nat) : Reader Value := fun cs =>
  match depth, skipSpace cs with
  | 0, '[' :: rest => failNext .nestedTooDeep ('[' :: rest)
  | 0, '{' :: rest => failNext .nestedTooDeep ('{' :: rest)
  | d + 1, '[' :: rest =>
    (items (value d) (rest.length + 1) [] true rest).map fun (vs, rest) => (.array vs, rest)
  | d + 1, '{' :: rest =>
    (members (addMember (value d)) (rest.length + 1) [] true rest).map fun (ms, rest) =>
      (.object (collect ms.reverse), rest)
  | _, rest => scalar rest

/-! ## Whole texts -/

/-- A text after which only white space is left. -/
def finished (rest : List Char) : Except Failure Unit :=
  match skipSpace rest with
  | [] => .ok ()
  | rest => failNext .trailingCharacters rest

/-- A whole text taken by a reader. -/
def whole {α : Type} (reader : Reader α) (text : String) : Except Error α :=
  let cs := text.toList
  match reader cs with
  | .error f => .error (f.locate cs)
  | .ok (x, rest) =>
    match finished rest with
    | .error f => .error (f.locate cs)
    | .ok () => .ok x

/-- A text that is one JSON value. -/
def document (text : String) : Except Error Value :=
  whole (value maxDepth) text

end TypedFilters.Json
