import TypedFilters.Text.Ascii
import TypedFilters.Text.Hidden

/-!
# Quoted texts in diagnostics

Where a message quotes a text that a user gave, the text stands between double quotes, and a
character that would not show, or that would end the quotation, is written as an escape.
-/

namespace TypedFilters.Text

/-- One character inside a quotation. -/
def quotedChar (c : Char) : List Char :=
  match c with
  | '"' => ['\\', '"']
  | '\\' => ['\\', '\\']
  | '\x00' => ['\\', '0']
  | '\t' => ['\\', 't']
  | '\r' => ['\\', 'r']
  | '\n' => ['\\', 'n']
  | c =>
    if isHidden c then '\\' :: 'u' :: '\x7b' :: (Nat.toDigits 16 c.toNat ++ ['\x7d']) else [c]

/-- A text as a quotation. -/
def quoted (s : String) : String :=
  String.ofList ('"' :: (s.toList.flatMap quotedChar ++ ['"']))

end TypedFilters.Text
