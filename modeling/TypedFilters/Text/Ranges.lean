/-!
# Ranges of code points

A class of characters is given by tables of closed ranges of code points in ascending order.
-/

namespace TypedFilters.Text

/-- A code point lies in one of some ascending closed ranges. Ranges that begin behind it are not
looked at. -/
def inRanges (n : Nat) : List (Nat × Nat) → Bool
  | [] => false
  | (first, last) :: rest => first ≤ n && (n ≤ last || inRanges n rest)

/-- A code point lies in a range of one of some tables. -/
def inTables (n : Nat) (tables : List (List (Nat × Nat))) : Bool :=
  tables.any (inRanges n)

end TypedFilters.Text
