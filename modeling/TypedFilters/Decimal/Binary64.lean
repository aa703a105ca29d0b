import TypedFilters.Decimal.Literal

/-!
# Finite binary floating-point numbers

A finite double is a sign and a magnitude that is a whole number of units of `2 ^ -1074`, the least
positive double; of these whole numbers the doubles are those below `2 ^ 2098` with at most 53
significant bits. All arithmetic is exact integer arithmetic followed by one rounding to the
nearest double, a tie going to the even neighbour. `Binary64.ofDecimal?` rounds a decimal literal
correctly and answers nothing when the result would be infinite.
-/

namespace TypedFilters

/-- The quotient rounded to the nearest whole number, a tie going to the even neighbour. -/
def roundQuotient (num den : Nat) : Nat :=
  let q := num / den
  let r := num % den
  if 2 * r < den then q
  else if den < 2 * r then q + 1
  else if q % 2 = 0 then q else q + 1

/-- A finite double: a sign and a magnitude in units of `2 ^ -1074`. -/
structure Binary64 where
  negative : Bool
  units : Nat
  deriving DecidableEq, Repr, Inhabited

namespace Binary64

/-- The number of units in one. -/
def one : Nat := Nat.pow 2 1074

/-- The first number of units that no finite double has. -/
def overflow : Nat := Nat.pow 2 2098

/-- The binary logarithm of the distance between the doubles around a number of units. -/
def spacing (units : Nat) : Nat :=
  if units < Nat.pow 2 53 then 0 else units.log2 - 52

/-- The double nearest to a quotient of units, before the test for overflow. -/
def roundUnits (num den : Nat) : Nat :=
  let k := spacing (num / den)
  roundQuotient num (den <<< k) <<< k

/-- Units in the range of finite doubles. -/
def finite? (units : Nat) : Option Nat :=
  if units < overflow then some units else none

/-- The units of the double nearest to `coefficient * 10 ^ exponent`, before the test for overflow.
The two guards settle values that are out of reach without building the power of ten. -/
def decimalUnits (coefficient : Nat) (exponent : Int) : Nat :=
  if coefficient = 0 then 0
  else
    match exponent with
    | .ofNat e => if 309 < e then overflow else roundUnits (coefficient * Nat.pow 10 e * one) 1
    | .negSucc e =>
      if coefficient.log2 + 1100 < 3 * (e + 1) then 0
      else roundUnits (coefficient * one) (Nat.pow 10 (e + 1))

/-- The double nearest to a decimal number, unless that is infinite. -/
def ofDecimal? (d : Decimal) : Option Binary64 :=
  (finite? (decimalUnits d.coefficient d.exponent)).map (⟨d.negative, ·⟩)

/-- The double nearest to a natural number, in units. -/
def natUnits (n : Nat) : Nat :=
  roundUnits (n * one) 1

/-- The double nearest to a power of ten, in units. -/
def powerUnits (e : Nat) : Nat :=
  natUnits (Nat.pow 10 e)

/-- The product of two doubles, rounded. -/
def mulUnits (a b : Nat) : Nat :=
  roundUnits (a * b) one

/-- The quotient of two doubles, rounded. -/
def divUnits (a b : Nat) : Nat :=
  roundUnits (a * one) b

/-- Division by a power of ten in steps of at most 308 digits, each step rounded. -/
def scaleDown (units e : Nat) : Nat :=
  if units = 0 then 0
  else if e ≤ 308 then divUnits units (powerUnits e)
  else scaleDown (divUnits units (powerUnits 308)) (e - 308)
termination_by e

/-- The significand times a power of ten, computed as a fast reader does: the significand is
rounded to a double, and then multiplied or divided by the double of the power of ten. The result
is not always the double nearest to the exact product. -/
def scaled? (significand : Nat) (exponent : Int) : Option Nat :=
  let f := natUnits significand
  match exponent with
  | .ofNat e =>
    if e ≤ 308 then finite? (mulUnits f (powerUnits e))
    else if f = 0 then some 0 else none
  | .negSucc e => some (scaleDown f (e + 1))

end Binary64

end TypedFilters
