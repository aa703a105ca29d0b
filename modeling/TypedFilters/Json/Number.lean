import TypedFilters.Json.Scan

/-!
# Numbers

A number is read into a significand of at most 64 bits and a power of ten. Digits that no longer fit
into the significand only scale the number if they stand before the point, and are dropped after it.
A number without point and exponent that fits 64 bits stays an integer; any other becomes the double
that `Binary64.scaled?` computes.
-/

namespace TypedFilters.Json

open Text

/-- The greatest significand. -/
def maxSignificand : Nat := Nat.pow 2 64 - 1

/-- The greatest exponent that is written in a number. -/
def maxExponent : Nat := 2147483647

/-- The least exponent of a number. -/
def minExponent : Int := -2147483648

/-- Digits taken into a number while it does not exceed a limit: the number, how many digits were
taken, and the rest. -/
def takeDigits (limit : Nat) : Nat → Nat → List Char → Nat × Nat × List Char
  | n, taken, [] => (n, taken, [])
  | n, taken, c :: rest =>
    match digit? c with
    | some d =>
      if limit < n * 10 + d then (n, taken, c :: rest)
      else takeDigits limit (n * 10 + d) (taken + 1) rest
    | none => (n, taken, c :: rest)

/-- A digit stands at the front. -/
def startsWithDigit : List Char → Bool
  | c :: _ => isDigit c
  | [] => false

/-- The digits at the front are passed over: how many, and the rest. -/
def passDigits (cs : List Char) : Nat × List Char :=
  let (digits, rest) := cs.span isDigit
  (digits.length, rest)

/-- A double of a sign and a magnitude. -/
def float (negative : Bool) (units : Nat) : Number :=
  .float ⟨negative, units⟩

/-- The double of a significand and a power of ten, in front of the rest. -/
def scaled (negative : Bool) (significand : Nat) (exponent : Int) : Reader Number := fun rest =>
  match Binary64.scaled? significand exponent with
  | some units => .ok (float negative units, rest)
  | none => failHere .numberOutOfRange rest

/-- An exponent within the range of exponents. -/
def clampExponent (e : Int) : Int :=
  max minExponent (min e maxExponent)

/-- The exponent part after its `e`, which adds to an exponent given by the digits before. -/
def exponentPart (negative : Bool) (significand : Nat) (exponent : Int) : Reader Number := fun cs =>
  let (down, cs) :=
    match cs with
    | '+' :: rest => (false, rest)
    | '-' :: rest => (true, rest)
    | rest => (false, rest)
  match cs with
  | [] => failHere .endInValue []
  | c :: rest =>
    if isDigit c then
      let (written, _, rest) := takeDigits maxExponent 0 0 (c :: rest)
      if startsWithDigit rest then
        if significand ≠ 0 ∧ !down then failHere .numberOutOfRange (rest.drop 1)
        else .ok (float negative 0, (passDigits rest).2)
      else
        let total := if down then exponent - written else exponent + written
        scaled negative significand (clampExponent total) rest
    else failNext .invalidNumber (c :: rest)

/-- What may follow the digits of a number that is no integer: an exponent part. -/
def afterDigits (negative : Bool) (significand : Nat) (exponent : Int) : Reader Number
  | c :: rest =>
    if c = 'e' ∨ c = 'E' then exponentPart negative significand exponent rest
    else scaled negative significand exponent (c :: rest)
  | [] => scaled negative significand exponent []

/-- The fraction after its point. -/
def fractionPart (negative : Bool) (significand : Nat) (exponent : Int) : Reader Number := fun cs =>
  let (significand, taken, rest) := takeDigits maxSignificand significand 0 cs
  let exponent := exponent - taken
  if startsWithDigit rest then
    afterDigits negative significand exponent (passDigits rest).2
  else if taken = 0 then
    match rest with
    | [] => failHere .endInValue []
    | _ :: _ => failNext .invalidNumber rest
  else afterDigits negative significand exponent rest

/-- An integer of a sign and a magnitude that fits 64 bits. Minus zero and what is below the least
signed integer of 64 bits become doubles. -/
def integer (negative : Bool) (significand : Nat) : Number :=
  if !negative then .integer significand
  else if significand = 0 ∨ Nat.pow 2 63 < significand then
    float true (Binary64.natUnits significand)
  else .integer (-significand)

/-- What may follow the digits before the point. `passed` counts those that did not fit. -/
def afterWhole (negative : Bool) (significand passed : Nat) : Reader Number
  | '.' :: rest => fractionPart negative significand passed rest
  | c :: rest =>
    if c = 'e' ∨ c = 'E' then exponentPart negative significand passed rest
    else if passed = 0 then .ok (integer negative significand, c :: rest)
    else scaled negative significand passed (c :: rest)
  | [] =>
    if passed = 0 then .ok (integer negative significand, [])
    else scaled negative significand passed []

/-- A number after its sign. A zero in front is followed by no digit. -/
def unsigned (negative : Bool) : Reader Number
  | [] => failHere .endInValue []
  | '0' :: rest =>
    if startsWithDigit rest then failNext .invalidNumber rest else afterWhole negative 0 0 rest
  | c :: rest =>
    if isDigit c then
      let (significand, _, rest) := takeDigits maxSignificand 0 0 (c :: rest)
      let (passed, rest) := passDigits rest
      afterWhole negative significand passed rest
    else failNext .invalidNumber (c :: rest)

/-- A number, whose first character is a minus or a digit. -/
def number : Reader Number
  | '-' :: rest => unsigned true rest
  | cs => unsigned false cs

end TypedFilters.Json
