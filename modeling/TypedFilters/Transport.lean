import TypedFilters.Text.Blank
import TypedFilters.Time.Utc
import TypedFilters.Transport.Base64
import TypedFilters.Transport.Form
import TypedFilters.ValueKind

/-!
# Transport encodings of values

A value travels as it is, form-encoded, or in Base64. `Encoding.text` strips the transport encoding;
`Encoding.decode` then normalises a date-time to UTC, and leaves a text that is no date-time to the
check of its format.
-/

namespace TypedFilters

/-- How values are written on the wire. -/
inductive Encoding where
  | plain
  | url
  | base64
  deriving DecidableEq, Repr, Inhabited

/-- Why a value cannot be decoded. -/
inductive DecodeFault where
  | base64 (reason : String)
  | notUtf8
  deriving DecidableEq, Repr

/-- What is said of a value that cannot be decoded. -/
def DecodeFault.message : DecodeFault → String
  | base64 reason => s!"invalid base64: {reason}"
  | notUtf8 => "decoded value is not valid UTF-8"

namespace Encoding

/-- Every encoding once. -/
def all : List Encoding := [plain, url, base64]

/-- The wire name. -/
def name : Encoding → String
  | plain => "plain"
  | url => "url"
  | base64 => "base64"

/-- The encoding of exactly that wire name. -/
def ofName? (text : String) : Option Encoding :=
  all.find? fun e => e.name == text

/-- The text of octets, if they are the UTF-8 form of one. -/
def utf8 (bs : List UInt8) : Except DecodeFault String :=
  match Text.ofOctets? bs with
  | some s => .ok s
  | none => .error .notUtf8

/-- The text that a value stands for. -/
def text (encoding : Encoding) (raw : String) : Except DecodeFault String :=
  match encoding with
  | plain => .ok raw
  | url => utf8 (Form.decode (Text.octets raw))
  | base64 =>
    match Base64.read (Text.octets (Text.trim raw)) with
    | .ok bs => utf8 bs
    | .error fault => .error (.base64 fault.message)

/-- The decoded value of a field of a kind: a date-time in UTC if it is one, else the text. -/
def decode (encoding : Encoding) (zone : Zone) (kind : ValueKind) (raw : String) :
    Except DecodeFault String :=
  (encoding.text raw).map fun s =>
    if kind = .dateTime then (toUtcText? zone s).getD s else s

end Encoding

end TypedFilters
