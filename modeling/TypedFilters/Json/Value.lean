import TypedFilters.Decimal.Shortest

/-!
# JSON values

A JSON value keeps an integer as an integer and any other number as a double. An object is a list of
members in order; `Json.insert` keeps the place of a name that is given again and takes the later
value, so the names of an object that was built by it are distinct.
-/

namespace TypedFilters.Json

/-- A JSON number: an integer of up to 64 bits, or a double. -/
inductive Number where
  | integer (value : Int)
  | float (value : Binary64)
  deriving DecidableEq, Repr, Inhabited

/-- The text of a number. -/
def Number.text : Number → String
  | integer value => toString value
  | float value => value.text

/-- A JSON value. -/
inductive Value where
  | null
  | bool (value : Bool)
  | number (value : Number)
  | string (text : String)
  | array (items : List Value)
  | object (members : List (String × Value))
  deriving Repr, Inhabited

/-- Members with a value put under a name: in the place of the name if it is there, else at the
end. -/
def insert (name : String) (value : Value) : List (String × Value) → List (String × Value)
  | [] => [(name, value)]
  | m :: rest => if m.1 = name then (name, value) :: rest else m :: insert name value rest

/-- The members of an object in the order of first occurrence, each with the last value given. -/
def collect (members : List (String × Value)) : List (String × Value) :=
  members.foldl (fun kept m => insert m.1 m.2 kept) []

/-- The value of a member of an object. -/
def Value.member? (name : String) : Value → Option Value
  | object members => (members.find? fun m => m.1 == name).map Prod.snd
  | _ => none

/-- The text of a string value. -/
def Value.string? : Value → Option String
  | string text => some text
  | _ => none

end TypedFilters.Json
