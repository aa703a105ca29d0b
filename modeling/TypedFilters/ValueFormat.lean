import TypedFilters.Decimal.Binary64
import TypedFilters.Text.Blank
import TypedFilters.Time.Rfc3339
import TypedFilters.ValueKind

/-!
# The format of values

`ValueKind.normalize` checks a decoded value against a kind and returns the form in which it is
kept. Numbers, date-times and enumerated values are kept trimmed; the text of the other kinds is kept
as it is, and only the empty text is refused.
-/

namespace TypedFilters

/-- Why a value does not have the format of its kind. -/
inductive ValueFault where
  | empty
  | blank
  | notNumber (text : String)
  | notTimestamp (text : String)
  | notChoice (text : String) (choices : List String)
  deriving DecidableEq, Repr

/-- What is said of a value of the wrong format. -/
def ValueFault.message : ValueFault → String
  | empty => "value is empty"
  | blank => "value is blank"
  | notNumber t => s!"'{t}' is not a number"
  | notTimestamp t => s!"'{t}' is not an RFC 3339 timestamp"
  | notChoice t choices =>
    let listed := ", ".intercalate choices
    s!"'{t}' is not one of: {listed}"

/-- A text is a number when it is a decimal literal whose nearest double is finite. -/
def isFiniteNumber (s : String) : Bool :=
  ((Decimal.read? s.toList).bind Binary64.ofDecimal?).isSome

namespace ValueKind

/-- Kinds whose values are kept as they are. -/
def isFreeText : ValueKind → Bool
  | string | list | dictionary => true
  | number | dateTime | enum => false

/-- The check of a trimmed value that is not blank. -/
def checkTrimmed (kind : ValueKind) (choices : List String) (t : String) :
    Except ValueFault String :=
  match kind with
  | number => if isFiniteNumber t then .ok t else .error (.notNumber t)
  | dateTime => if Rfc3339.isTimestamp t then .ok t else .error (.notTimestamp t)
  | enum => if choices.contains t then .ok t else .error (.notChoice t choices)
  | string | list | dictionary => .ok t

/-- The form in which a value of the kind is kept. -/
def normalize (kind : ValueKind) (choices : List String) (value : String) :
    Except ValueFault String :=
  if kind.isFreeText then
    if value.isEmpty then .error .empty else .ok value
  else
    let t := Text.trim value
    if t.isEmpty then .error .blank else kind.checkTrimmed choices t

end ValueKind

end TypedFilters
