import TypedFilters.Decimal.Binary64

/-!
# The shortest decimal text of a double

`Binary64.shortest` finds a decimal number with the fewest digits that reads back as a given
double, and of those with equally many the nearest to it. For one, two, … seventeen digits it tests
the two neighbours of the double on that decimal grid. `Binary64.text` writes the digits with a
point when the first digit stands between the fifth place after the point and the sixteenth before
it, and with an exponent otherwise.
-/

namespace TypedFilters.Binary64

/-- The decimal exponent of the first digit of a positive number of units. -/
def leadingExponent (units : Nat) : Int :=
  (Nat.toDigits 10 (units * Nat.pow 10 324 / one)).length - 325

/-- A number of units divided by a power of ten: numerator and denominator of the quotient. -/
def overPower (units : Nat) : Int → Nat × Nat
  | .ofNat e => (units, one * Nat.pow 10 e)
  | .negSucc e => (units * Nat.pow 10 (e + 1), one)

/-- The better of the two neighbours of a number of units on the grid of a power of ten, among
those that read back; of two equally near ones the even one. -/
def nearestOnGrid? (units : Nat) (exponent : Int) : Option Nat :=
  let (num, den) := overPower units exponent
  let below := num / den
  let above := below + 1
  let readsBack := fun c => decimalUnits c exponent == units
  match readsBack below, readsBack above with
  | true, true => some (roundQuotient num den)
  | true, false => some below
  | false, true => some above
  | false, false => none

/-- The exact decimal expansion of a number of units. -/
def expansion (units : Nat) : Nat × Int :=
  (units * Nat.pow 5 1074, -1074)

/-- The coefficient and the exponent of the shortest decimal number that reads back. -/
def shortest (units : Nat) : Nat × Int :=
  let first := leadingExponent units
  let grids := (List.range 17).map fun (n : Nat) => first - (n : Int)
  (grids.findSome? fun e => (nearestOnGrid? units e).map fun c => (c, e)).getD (expansion units)

/-- The digits without the zeros at their end. -/
def stripZeros (digits : List Char) : List Char :=
  (digits.reverse.dropWhile (· = '0')).reverse

/-- Digits with a point; `leading` is the exponent of the first digit. A fraction is always
written, if need be as a single zero. -/
def positional (digits : List Char) : Int → List Char
  | .ofNat n =>
    let whole := (digits.take (n + 1)).rightpad (n + 1) '0'
    let fraction := digits.drop (n + 1)
    whole ++ '.' :: (if fraction.isEmpty then ['0'] else fraction)
  | .negSucc n => '0' :: '.' :: (List.replicate n '0' ++ digits)

/-- Digits with an exponent, whose sign is always written; a point only where digits follow it. -/
def scientific (digits : List Char) (leading : Int) : List Char :=
  let fraction := digits.drop 1
  let sign := if leading < 0 then '-' else '+'
  digits.take 1 ++ (if fraction.isEmpty then [] else '.' :: fraction) ++
    'e' :: sign :: Nat.toDigits 10 leading.natAbs

/-- The text of a magnitude: positional when the first digit's exponent is from -5 to 15. -/
def magnitudeText (units : Nat) : List Char :=
  if units = 0 then ['0', '.', '0']
  else
    let (coefficient, exponent) := shortest units
    let digits := Nat.toDigits 10 coefficient
    let leading := exponent + digits.length - 1
    let digits := stripZeros digits
    if -5 ≤ leading ∧ leading ≤ 15 then positional digits leading else scientific digits leading

/-- The text of a double: its sign if negative, also of zero, and its magnitude. -/
def text (x : Binary64) : String :=
  String.ofList (if x.negative then '-' :: magnitudeText x.units else magnitudeText x.units)

end TypedFilters.Binary64
