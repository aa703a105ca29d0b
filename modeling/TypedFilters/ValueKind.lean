import TypedFilters.Operator

/-!
# Value kinds

Every filterable field has one kind. The kind decides which operators the field permits, whether a
filter on it needs a key, and (in `TypedFilters.ValueFormat`) what a decoded value must look like.
-/

namespace TypedFilters

/-- The kind of value that a field holds. -/
inductive ValueKind where
  | string
  | number
  | dateTime
  | enum
  | list
  | dictionary
  deriving DecidableEq, Repr, Inhabited

namespace ValueKind

/-- Every kind once. -/
def all : List ValueKind :=
  [string, number, dateTime, enum, list, dictionary]

/-- The wire name. -/
def name : ValueKind → String
  | string => "string"
  | number => "number"
  | dateTime => "date_time"
  | enum => "enum"
  | list => "list"
  | dictionary => "dictionary"

/-- The operators that a field of the kind permits, in the order in which they are published. -/
def operators : ValueKind → List Operator
  | string =>
    [.equal, .notEqual, .contains, .notContains, .startsWith, .endsWith, .isEmpty, .isNotEmpty]
  | number => [.equal, .notEqual, .greater, .greaterOrEqual, .less, .lessOrEqual]
  | dateTime => [.equal, .greater, .greaterOrEqual, .less, .lessOrEqual]
  | enum => [.equal, .notEqual]
  | list => [.contains]
  | dictionary =>
    [.equal, .notEqual, .contains, .notContains, .startsWith, .endsWith, .greater, .less, .isEmpty,
      .isNotEmpty]

/-- A kind permits the operators that it lists. -/
def permits (kind : ValueKind) (op : Operator) : Bool :=
  kind.operators.contains op

/-- Only a dictionary is addressed by a key. -/
def needsKey : ValueKind → Bool
  | dictionary => true
  | _ => false

end ValueKind

end TypedFilters
