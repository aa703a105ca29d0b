/-!
# Splitting texts

`Text.split` cuts a text at every occurrence of a character. There is always one piece more than there
are cuts, and the pieces may be empty.
-/

namespace TypedFilters.Text

/-- The pieces of a list between the occurrences of an element. -/
def splitList {α : Type} [DecidableEq α] (sep : α) : List α → List (List α)
  | [] => [[]]
  | x :: rest =>
    if x = sep then [] :: splitList sep rest
    else
      match splitList sep rest with
      | piece :: pieces => (x :: piece) :: pieces
      | [] => [[x]]

/-- The pieces of a text between the occurrences of a character. -/
def split (sep : Char) (s : String) : List String :=
  (splitList sep s.toList).map String.ofList

end TypedFilters.Text
