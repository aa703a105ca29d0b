import TypedFilters.Text.Ascii
import TypedFilters.Text.Octets

/-!
# Form encoding

A form-encoded text writes a space as `+` and any octet as `%` with two hexadecimal digits. Reading
is lenient: a `%` without two digits after it stands for itself.
-/

namespace TypedFilters.Form

/-- The value of an octet that is a hexadecimal digit. -/
def hexValue? (b : UInt8) : Option Nat :=
  if b < 128 then Text.hexDigit? (Char.ofNat b.toNat) else none

/-- The octet that two hexadecimal digits write. -/
def escaped? (high low : UInt8) : Option UInt8 := do
  let h ← hexValue? high
  let l ← hexValue? low
  some (UInt8.ofNat (h * 16 + l))

/-- The octets that a form-encoded text stands for. -/
def decode : List UInt8 → List UInt8
  | [] => []
  | 37 :: high :: low :: rest =>
    match escaped? high low with
    | some b => b :: decode rest
    | none => 37 :: decode (high :: low :: rest)
  | b :: rest => (if b = 43 then 32 else b) :: decode rest

end TypedFilters.Form
