import TypedFilters.Json.Fault
import TypedFilters.Text.Ascii

/-!
# Blanks, words and strings

The lexical parts of JSON that readers of whole values share: white space, the words `null`, `true`
and `false`, and the body of a string with its escapes.
-/

namespace TypedFilters.Json

open Text

/-- JSON white space. -/
def isSpace (c : Char) : Bool :=
  c = ' ' || c = '\n' || c = '\t' || c = '\r'

/-- The text after the white space in front. -/
def skipSpace (cs : List Char) : List Char :=
  cs.dropWhile isSpace

/-- The rest of a word whose first letter has been read. -/
def word : List Char → List Char → Except Failure (List Char)
  | [], cs => .ok cs
  | _ :: _, [] => failHere .endInValue []
  | w :: ws, c :: rest => if c = w then word ws rest else failNext .expectedIdent (c :: rest)

/-! ## Strings -/

/-- Four hexadecimal digits at the front, as a number. -/
def hexQuad : Reader Nat
  | a :: b :: c :: d :: rest =>
    match hexDigit? a, hexDigit? b, hexDigit? c, hexDigit? d with
    | some a', some b', some c', some d' => .ok (((a' * 16 + b') * 16 + c') * 16 + d', rest)
    | _, _, _, _ => hexQuadFailure (a :: b :: c :: d :: rest)
  | cs => hexQuadFailure cs
where
  /-- Four octets are taken as read if there are so many, and else all. -/
  hexQuadFailure (cs : List Char) : Except Failure (Nat × List Char) :=
    if octetCount cs < 4 then failHere .endInString []
    else .error ⟨.grammar .invalidEscape, some (octetCount cs - 4)⟩

/-- A leading surrogate. -/
def isLeading (n : Nat) : Bool := 0xD800 ≤ n && n ≤ 0xDBFF

/-- A trailing surrogate. -/
def isTrailing (n : Nat) : Bool := 0xDC00 ≤ n && n ≤ 0xDFFF

/-- The escape that must follow a leading surrogate: a trailing one. -/
def trailingSurrogate : Reader Nat
  | [] => failHere .endInString []
  | '\\' :: [] => failHere .endInString []
  | '\\' :: 'u' :: rest =>
    match hexQuad rest with
    | .error e => .error e
    | .ok (n, rest) => if isTrailing n then .ok (n, rest) else failHere .loneSurrogate rest
  | '\\' :: rest => failNext .unfinishedSurrogate rest
  | rest => failNext .unfinishedSurrogate rest

/-- The character of an escape by code, after the `u`. -/
def codeEscape : Reader Char := fun cs =>
  match hexQuad cs with
  | .error e => .error e
  | .ok (n, rest) =>
    if isTrailing n then failHere .loneSurrogate rest
    else if isLeading n then
      match trailingSurrogate rest with
      | .error e => .error e
      | .ok (m, rest) => .ok (Char.ofNat (0x10000 + (n - 0xD800) * 0x400 + (m - 0xDC00)), rest)
    else .ok (Char.ofNat n, rest)

/-- The character that a letter after a backslash stands for. -/
def letterEscape? : Char → Option Char
  | '"' => some '"'
  | '\\' => some '\\'
  | '/' => some '/'
  | 'b' => some '\x08'
  | 'f' => some '\x0c'
  | 'n' => some '\n'
  | 'r' => some '\r'
  | 't' => some '\t'
  | _ => none

/-- The character of an escape, after the backslash. -/
def escape : Reader Char
  | [] => failHere .endInString []
  | 'u' :: rest => codeEscape rest
  | c :: rest =>
    match letterEscape? c with
    | some d => .ok (d, rest)
    | none => failNext .invalidEscape (c :: rest)

/-- The body of a string up to and with its closing quote; `read` holds the characters read so far,
the last one first. The first argument bounds the number of characters. -/
def stringBody : Nat → List Char → Reader String
  | 0, _, _ => failHere .endInString []
  | _, _, [] => failHere .endInString []
  | n + 1, read, c :: rest =>
    if c = '"' then .ok (String.ofList read.reverse, rest)
    else if c = '\\' then
      match escape rest with
      | .error e => .error e
      | .ok (d, rest) => stringBody n (d :: read) rest
    else if c.toNat < 32 then failHere .controlCharacter rest
    else stringBody n (c :: read) rest

/-- A string after its opening quote. -/
def string : Reader String := fun cs =>
  stringBody (cs.length + 1) [] cs

end TypedFilters.Json
