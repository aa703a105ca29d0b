import TypedFilters.Json.Value
import TypedFilters.Text.Ascii

/-!
# Writing JSON

`Json.compact` writes a value without white space, `Json.pretty` with one member or item a line and
two spaces of indentation. Both escape quotes, backslashes and control characters, and write every
other character as it is.
-/

namespace TypedFilters.Json

/-- One character inside a string. -/
def escapedChar (c : Char) : List Char :=
  match c with
  | '"' => ['\\', '"']
  | '\\' => ['\\', '\\']
  | '\x08' => ['\\', 'b']
  | '\x0c' => ['\\', 'f']
  | '\n' => ['\\', 'n']
  | '\r' => ['\\', 'r']
  | '\t' => ['\\', 't']
  | c =>
    if c.toNat < 32 then
      ['\\', 'u', '0', '0', Text.hexDigit (c.toNat / 16), Text.hexDigit (c.toNat % 16)]
    else [c]

/-- A string between quotes. -/
def stringText (s : String) : List Char :=
  '"' :: (s.toList.flatMap escapedChar ++ ['"'])

/-- The text of a value that is no array and no object with something in it. -/
def scalarText : Value → List Char
  | .null => ['n', 'u', 'l', 'l']
  | .bool true => ['t', 'r', 'u', 'e']
  | .bool false => ['f', 'a', 'l', 's', 'e']
  | .number n => n.text.toList
  | .string s => stringText s
  | .array _ => ['[', ']']
  | .object _ => ['{', '}']

mutual

/-- A value without white space. -/
def compactText : Value → List Char
  | .array (v :: vs) => '[' :: (compactText v ++ compactItems vs)
  | .object ((k, v) :: ms) => '{' :: (stringText k ++ ':' :: (compactText v ++ compactMembers ms))
  | v => scalarText v

/-- The items after the first, and the end of the array. -/
def compactItems : List Value → List Char
  | [] => [']']
  | v :: vs => ',' :: (compactText v ++ compactItems vs)

/-- The members after the first, and the end of the object. -/
def compactMembers : List (String × Value) → List Char
  | [] => ['}']
  | (k, v) :: ms => ',' :: (stringText k ++ ':' :: (compactText v ++ compactMembers ms))

end

/-- A new line with its indentation. -/
def lineBreak (depth : Nat) : List Char :=
  '\n' :: List.replicate (2 * depth) ' '

mutual

/-- A value on several lines, whose brackets close at the given depth. -/
def prettyText (depth : Nat) : Value → List Char
  | .array (v :: vs) =>
    '[' :: (lineBreak (depth + 1) ++ (prettyText (depth + 1) v ++ prettyItems depth vs))
  | .object ((k, v) :: ms) =>
    '{' :: (lineBreak (depth + 1) ++
      (stringText k ++ ':' :: ' ' :: (prettyText (depth + 1) v ++ prettyMembers depth ms)))
  | v => scalarText v

/-- The items after the first, and the end of the array. -/
def prettyItems (depth : Nat) : List Value → List Char
  | [] => lineBreak depth ++ [']']
  | v :: vs =>
    ',' :: (lineBreak (depth + 1) ++ (prettyText (depth + 1) v ++ prettyItems depth vs))

/-- The members after the first, and the end of the object. -/
def prettyMembers (depth : Nat) : List (String × Value) → List Char
  | [] => lineBreak depth ++ ['}']
  | (k, v) :: ms =>
    ',' :: (lineBreak (depth + 1) ++
      (stringText k ++ ':' :: ' ' :: (prettyText (depth + 1) v ++ prettyMembers depth ms)))

end

/-- The text of a value without white space. -/
def compact (v : Value) : String :=
  String.ofList (compactText v)

/-- The text of a value on several lines. -/
def pretty (v : Value) : String :=
  String.ofList (prettyText 0 v)

end TypedFilters.Json
