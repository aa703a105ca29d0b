import TypedFilters.Json.Value
import TypedFilters.Text.Quoted

/-!
# What can be wrong with a JSON text

A fault is either one of syntax or one of shape: the text is JSON but not of the form that is
expected. Readers report a fault with the number of octets that are left unread at its place;
`Failure.locate` turns that into a line and a column of the text.
-/

namespace TypedFilters.Json

/-- A violation of the JSON grammar or of its limits. -/
inductive SyntaxFault where
  | endInValue
  | endInString
  | endInList
  | endInObject
  | expectedIdent
  | expectedValue
  | expectedColon
  | expectedListEnd
  | expectedObjectEnd
  | keyNotString
  | trailingComma
  | trailingCharacters
  | invalidNumber
  | numberOutOfRange
  | invalidEscape
  | controlCharacter
  | loneSurrogate
  | unfinishedSurrogate
  | nestedTooDeep
  deriving DecidableEq, Repr

/-- What is said of a violation of the grammar. -/
def SyntaxFault.message : SyntaxFault → String
  | endInValue => "EOF while parsing a value"
  | endInString => "EOF while parsing a string"
  | endInList => "EOF while parsing a list"
  | endInObject => "EOF while parsing an object"
  | expectedIdent => "expected ident"
  | expectedValue => "expected value"
  | expectedColon => "expected `:`"
  | expectedListEnd => "expected `,` or `]`"
  | expectedObjectEnd => "expected `,` or `\x7d`"
  | keyNotString => "key must be a string"
  | trailingComma => "trailing comma"
  | trailingCharacters => "trailing characters"
  | invalidNumber => "invalid number"
  | numberOutOfRange => "number out of range"
  | invalidEscape => "invalid escape"
  | controlCharacter => "control character (\\u0000-\\u001F) found while parsing a string"
  | loneSurrogate => "lone leading surrogate in hex escape"
  | unfinishedSurrogate => "unexpected end of hex escape"
  | nestedTooDeep => "recursion limit exceeded"

/-- What was found where something else is expected. -/
inductive Found where
  | null
  | bool (value : Bool)
  | number (value : Number)
  | string (text : String)
  | array
  | object
  deriving DecidableEq, Repr

/-- How a found thing is named. -/
def Found.description : Found → String
  | null => "null"
  | bool true => "boolean `true`"
  | bool false => "boolean `false`"
  | number (.integer i) => s!"integer `{i}`"
  | number (.float x) => s!"floating point `{x.text}`"
  | string text => s!"string {Text.quoted text}"
  | array => "sequence"
  | object => "map"

/-- The outermost form of a value. -/
def Value.found : Value → Found
  | null => .null
  | bool b => .bool b
  | number n => .number n
  | string s => .string s
  | array _ => .array
  | object _ => .object

/-- A value that is JSON but does not have the expected form. -/
inductive ShapeFault where
  | wrongType (found : Found) (expected : String)
  | wrongValue (found : Found) (expected : String)
  | wrongLength (length : Nat) (expected : String)
  | missingField (name : String)
  | duplicateField (name : String)
  | unknownVariant (name : String) (expected : List String)
  /-- A value of the right type that its reader refuses with a reason of its own. -/
  | refused (reason : String)
  deriving DecidableEq, Repr

/-- What is said of a value of the wrong form. -/
def ShapeFault.message : ShapeFault → String
  | wrongType found expected => s!"invalid type: {found.description}, expected {expected}"
  | wrongValue found expected => s!"invalid value: {found.description}, expected {expected}"
  | wrongLength length expected => s!"invalid length {length}, expected {expected}"
  | missingField name => s!"missing field `{name}`"
  | duplicateField name => s!"duplicate field `{name}`"
  | unknownVariant name expected =>
    let listed := ", ".intercalate (expected.map fun e => s!"`{e}`")
    s!"unknown variant `{name}`, expected one of {listed}"
  | refused reason => reason

/-- A fault of syntax or of shape. -/
inductive Fault where
  | grammar (fault : SyntaxFault)
  | shape (fault : ShapeFault)
  deriving DecidableEq, Repr

/-- What is said of a fault. -/
def Fault.message : Fault → String
  | grammar fault => fault.message
  | shape fault => fault.message

/-! ## Places in a text -/

/-- A line, counted from one, and the number of octets before a place in that line. -/
structure Position where
  line : Nat
  column : Nat
  deriving DecidableEq, Repr

/-- The position after some octets of a text, from a position on. A place may lie inside a
character. -/
def Position.advance : Position → Nat → List Char → Position
  | p, _, [] => p
  | p, octets, c :: rest =>
    if octets < c.utf8Size then { p with column := p.column + octets }
    else if c = '\n' then Position.advance ⟨p.line + 1, 0⟩ (octets - c.utf8Size) rest
    else Position.advance { p with column := p.column + c.utf8Size } (octets - c.utf8Size) rest

/-- The number of octets of a text. -/
def octetCount (cs : List Char) : Nat :=
  cs.foldl (fun n c => n + c.utf8Size) 0

/-- A fault with its position, if it has one. -/
structure Error where
  fault : Fault
  position? : Option Position
  deriving DecidableEq, Repr

/-- What is said of a fault, with its position. -/
def Error.message (e : Error) : String :=
  match e.position? with
  | some p => s!"{e.fault.message} at line {p.line} column {p.column}"
  | none => e.fault.message

/-- A fault found by a reader, with the number of octets left unread at its place. -/
structure Failure where
  fault : Fault
  left? : Option Nat
  deriving DecidableEq, Repr

/-- The failure of a reader of a whole text, as an error with a position. -/
def Failure.locate (text : List Char) (f : Failure) : Error :=
  ⟨f.fault, f.left?.map fun left => Position.advance ⟨1, 0⟩ (octetCount text - left) text⟩

/-- A reader takes a value from the front of a text and leaves the rest. -/
abbrev Reader (α : Type) := List Char → Except Failure (α × List Char)

/-- Failure in front of the text that is left. -/
def failHere {α : Type} (fault : SyntaxFault) (rest : List Char) : Except Failure α :=
  .error ⟨.grammar fault, some (octetCount rest)⟩

/-- Failure at the next octet of the text that is left, which is counted as read. -/
def failNext {α : Type} (fault : SyntaxFault) (rest : List Char) : Except Failure α :=
  .error ⟨.grammar fault, some (octetCount rest - 1)⟩

/-- A fault of shape that has no place yet. -/
def failShape {α : Type} (fault : ShapeFault) : Except Failure α :=
  .error ⟨.shape fault, none⟩

end TypedFilters.Json
