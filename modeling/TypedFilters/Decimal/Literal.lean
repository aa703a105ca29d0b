import TypedFilters.Text.Ascii

/-!
# Decimal literals

A decimal literal is an optional sign, digits with an optional point among, before or after them,
and an optional exponent. `Decimal.read?` reads one from a whole text. What it denotes is an exact
rational number, kept as an integer coefficient and a power of ten.
-/

namespace TypedFilters

/-- The exact number `coefficient * 10 ^ exponent`, with a sign. -/
structure Decimal where
  negative : Bool
  coefficient : Nat
  exponent : Int
  deriving DecidableEq, Repr, Inhabited

namespace Decimal

open Text

/-- An optional sign (`true` for minus) and what follows it. -/
def splitSign : List Char → Bool × List Char
  | '-' :: rest => (true, rest)
  | '+' :: rest => (false, rest)
  | rest => (false, rest)

/-- The digits at the front and what follows them. -/
def splitDigits (cs : List Char) : List Char × List Char :=
  cs.span isDigit

/-- An optional point with the digits after it, and what follows them. -/
def splitFraction : List Char → List Char × List Char
  | '.' :: rest => splitDigits rest
  | rest => ([], rest)

/-- An exponent part that reaches the end of the text; its digits may not be missing. -/
def exponent? : List Char → Option Int
  | [] => some 0
  | c :: rest =>
    if c = 'e' ∨ c = 'E' then
      let (negative, rest) := splitSign rest
      let (digits, rest) := splitDigits rest
      if digits.isEmpty || !rest.isEmpty then none
      else
        let magnitude : Int := digitsValue digits
        some (if negative then -magnitude else magnitude)
    else none

/-- The number that the whole text spells; the point needs a digit on one side at least. -/
def read? (cs : List Char) : Option Decimal :=
  let (negative, rest) := splitSign cs
  let (whole, rest) := splitDigits rest
  let (fraction, rest) := splitFraction rest
  if whole.isEmpty && fraction.isEmpty then none
  else
    (exponent? rest).map fun e =>
      ⟨negative, digitsValue (whole ++ fraction), e - fraction.length⟩

end Decimal

end TypedFilters
