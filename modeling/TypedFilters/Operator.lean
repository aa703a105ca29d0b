import TypedFilters.Text.Ascii
import TypedFilters.Text.Blank

/-!
# Comparison operators

The closed set of operators that a filter may use. `Operator.name` is the canonical wire name and
`Operator.named?` reads a name or a word alias, whatever its case and the blanks around it.
-/

namespace TypedFilters

/-- How a filter compares a field with its value. -/
inductive Operator where
  | contains
  | notContains
  | startsWith
  | endsWith
  | equal
  | notEqual
  | greater
  | greaterOrEqual
  | less
  | lessOrEqual
  | isEmpty
  | isNotEmpty
  deriving DecidableEq, Repr, Inhabited

namespace Operator

/-- Every operator once, in the order in which they are published. -/
def all : List Operator :=
  [contains, notContains, startsWith, endsWith, equal, notEqual, greater, greaterOrEqual, less,
    lessOrEqual, isEmpty, isNotEmpty]

/-- The canonical wire name. -/
def name : Operator → String
  | contains => "contains"
  | notContains => "not_contains"
  | startsWith => "starts_with"
  | endsWith => "ends_with"
  | equal => "="
  | notEqual => "!="
  | greater => ">"
  | greaterOrEqual => ">="
  | less => "<"
  | lessOrEqual => "<="
  | isEmpty => "is_empty"
  | isNotEmpty => "is_not_empty"

/-- The other names under which an operator is accepted. -/
def aliases : Operator → List String
  | equal => ["equal"]
  | notEqual => ["<>", "not_equal"]
  | greater => ["greater_than"]
  | greaterOrEqual => ["greater_than_equal"]
  | less => ["less_than"]
  | lessOrEqual => ["less_than_equal"]
  | _ => []

/-- A text names an operator when, trimmed and in lower case, it is the name or an alias of it. -/
def named? (text : String) : Option Operator :=
  let given := Text.lower (Text.trim text)
  all.find? fun op => given == op.name || op.aliases.contains given

/-- A nullary operator takes no value. -/
def isNullary : Operator → Bool
  | isEmpty | isNotEmpty => true
  | _ => false

/-- What is said of a text that names no operator. -/
def unknownMessage (text : String) : String :=
  s!"Unknown operator '{text}'"

end Operator

end TypedFilters
