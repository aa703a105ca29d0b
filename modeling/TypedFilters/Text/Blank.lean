/-!
# Blank characters and trimming

A character is blank when it has the Unicode property `White_Space`. `Text.trim` removes the blank
characters at both ends of a text, and `Text.isBlank` holds of a text that has no other character.
All names, keys and values of the library are trimmed and tested by these two functions.
-/

namespace TypedFilters.Text

/-- The code points with the property `White_Space`, as closed ranges in ascending order. -/
def blankRanges : List (Nat × Nat) :=
  [(0x9, 0xD), (0x20, 0x20), (0x85, 0x85), (0xA0, 0xA0), (0x1680, 0x1680), (0x2000, 0x200A),
    (0x2028, 0x2029), (0x202F, 0x202F), (0x205F, 0x205F), (0x3000, 0x3000)]

/-- A character is blank when its code point lies in one of the ranges. -/
def isBlankChar (c : Char) : Bool :=
  blankRanges.any fun r => r.1 ≤ c.toNat && c.toNat ≤ r.2

/-- The characters without the blank ones at both ends. -/
def trimChars (cs : List Char) : List Char :=
  ((cs.dropWhile isBlankChar).reverse.dropWhile isBlankChar).reverse

/-- The text without the blank characters at both ends. -/
def trim (s : String) : String :=
  String.ofList (trimChars s.toList)

/-- A text is blank when all its characters are. -/
def isBlank (s : String) : Bool :=
  s.toList.all isBlankChar

/-- A blank text counts as absent. -/
def nonBlank? (s : Option String) : Option String :=
  s.filter fun t => !isBlank t

end TypedFilters.Text
