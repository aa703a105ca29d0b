import TypedFilters.Json.Number

/-!
# Skipping values

A value under a name that nobody asks for is passed over. Only its syntax is checked, more loosely
than where it is read: nesting has no limit, numbers have no range, and escapes by code may spell
lone surrogates. Some faults are also reported as others than where a value is read.
-/

namespace TypedFilters.Json

open Text

/-- An exponent part after its `e`. -/
def skipExponent (cs : List Char) : Except Failure (List Char) :=
  let cs :=
    match cs with
    | '+' :: rest => rest
    | '-' :: rest => rest
    | rest => rest
  match cs with
  | [] => failHere .invalidNumber []
  | c :: rest => if isDigit c then .ok (passDigits rest).2 else failNext .invalidNumber (c :: rest)

/-- An exponent part, if there is one. -/
def skipOptionalExponent : List Char → Except Failure (List Char)
  | c :: rest => if c = 'e' ∨ c = 'E' then skipExponent rest else .ok (c :: rest)
  | [] => .ok []

/-- What may follow the digits before the point. -/
def skipAfterWhole : List Char → Except Failure (List Char)
  | '.' :: rest =>
    let (count, after) := passDigits rest
    if count = 0 then failNext .invalidNumber after else skipOptionalExponent after
  | cs => skipOptionalExponent cs

/-- A number after its sign. -/
def skipUnsigned : List Char → Except Failure (List Char)
  | [] => failHere .invalidNumber []
  | '0' :: rest => if startsWithDigit rest then failNext .invalidNumber rest else skipAfterWhole rest
  | c :: rest =>
    if isDigit c then skipAfterWhole (passDigits rest).2 else failNext .invalidNumber (c :: rest)

/-- A string after its opening quote. The bound is on the number of characters. -/
def skipString : Nat → List Char → Except Failure (List Char)
  | 0, _ => failHere .endInString []
  | _, [] => failHere .endInString []
  | n + 1, c :: rest =>
    if c = '"' then .ok rest
    else if c = '\\' then
      match rest with
      | [] => failHere .endInString []
      | 'u' :: rest =>
        match hexQuad rest with
        | .error e => .error e
        | .ok (_, rest) => skipString n rest
      | d :: rest =>
        if (letterEscape? d).isSome then skipString n rest else failNext .invalidEscape (d :: rest)
    else if c.toNat < 32 then failHere .controlCharacter (c :: rest)
    else skipString n rest

/-- A value that is no array and no object, by its first character. -/
def skipScalar : List Char → Except Failure (List Char)
  | [] => failHere .endInValue []
  | 'n' :: rest => word ['u', 'l', 'l'] rest
  | 't' :: rest => word ['r', 'u', 'e'] rest
  | 'f' :: rest => word ['a', 'l', 's', 'e'] rest
  | '"' :: rest => skipString (rest.length + 1) rest
  | '-' :: rest => skipUnsigned rest
  | c :: rest => if isDigit c then skipUnsigned (c :: rest) else failNext .expectedValue (c :: rest)

/-- An open array or object around the place that is read. -/
inductive Enclosing where
  | array
  | object
  deriving DecidableEq, Repr

/-- The name of a member with its colon. -/
def skipName (cs : List Char) : Except Failure (List Char) :=
  match skipSpace cs with
  | [] => failHere .endInObject []
  | '"' :: rest =>
    match skipString (rest.length + 1) rest with
    | .error e => .error e
    | .ok rest =>
      match skipSpace rest with
      | [] => failHere .endInObject []
      | ':' :: rest => .ok rest
      | rest => failNext .expectedColon rest
  | rest => failNext .keyNotString rest

/-- What stands in front of a value inside an array or object. -/
def skipToValue : Enclosing → List Char → Except Failure (List Char)
  | .array, cs => .ok cs
  | .object, cs => skipName cs

/-- The fault of a text that ends inside an array or object. -/
def Enclosing.unfinished : Enclosing → SyntaxFault
  | array => .endInList
  | object => .endInObject

/-- The fault of something else than a comma or the end. -/
def Enclosing.unexpected : Enclosing → SyntaxFault
  | array => .expectedListEnd
  | object => .expectedObjectEnd

/-- The character that ends an array or object. -/
def Enclosing.close : Enclosing → Char
  | array => ']'
  | object => '}'

/-- What comes next while values are passed over. -/
inductive Awaited where
  /-- A value. -/
  | value
  /-- The end of the innermost array or object, or what follows its opening bracket. -/
  | endOrFirst
  /-- The end of the innermost array or object, or a comma. -/
  | endOrComma
  deriving DecidableEq, Repr

/-- Values are passed over, inside the arrays and objects that are open, until all are closed. Each
step passes over a part of the text or turns to the value that comes next, so twice the length of the
text bounds their number. -/
def skipFrom : Nat → Awaited → List Enclosing → List Char → Except Failure (List Char)
  | 0, _, _, _ => failHere .endInValue []
  | n + 1, .value, enclosing, cs =>
    match skipSpace cs with
    | '[' :: rest => skipFrom n .endOrFirst (.array :: enclosing) rest
    | '{' :: rest => skipFrom n .endOrFirst (.object :: enclosing) rest
    | rest =>
      match skipScalar rest with
      | .error e => .error e
      | .ok rest => skipFrom n .endOrComma enclosing rest
  | _ + 1, _, [], cs => .ok cs
  | n + 1, awaited, e :: enclosing, cs =>
    match skipSpace cs with
    | [] => failHere e.unfinished []
    | c :: rest =>
      if c = e.close then skipFrom n .endOrComma enclosing rest
      else if awaited = .endOrFirst then
        match skipToValue e (c :: rest) with
        | .error f => .error f
        | .ok rest => skipFrom n .value (e :: enclosing) rest
      else if c = ',' then
        match skipToValue e rest with
        | .error f => .error f
        | .ok rest => skipFrom n .value (e :: enclosing) rest
      else failNext e.unexpected (c :: rest)

/-- A value is passed over. -/
def skipValue (cs : List Char) : Except Failure (List Char) :=
  skipFrom (2 * cs.length + 2) .value [] cs

end TypedFilters.Json
