import TypedFilters.Decimal.Literal
import TypedFilters.Time.Instant

/-!
# RFC 3339 timestamps

A timestamp is a date, one of `T`, `t` and blank, a time of day with an optional fraction, and an
offset from UTC. Every number has its fixed width. `Rfc3339.read?` reads one from a whole text and
answers the civil time together with the offset.
-/

namespace TypedFilters.Rfc3339

open Text Decimal

/-- Exactly `width` digits at the front, as a number. -/
def fixed? (width : Nat) (cs : List Char) : Option (Nat × List Char) :=
  let front := cs.take width
  if front.length = width ∧ front.all isDigit then some (digitsValue front, cs.drop width) else none

/-- One given character at the front. -/
def skip? (c : Char) : List Char → Option (List Char)
  | d :: rest => if d = c then some rest else none
  | [] => none

/-- An optional point with one digit or more, as nanoseconds; digits past the ninth are dropped. -/
def fraction? : List Char → Option (Nat × List Char)
  | '.' :: rest =>
    let (digits, rest) := splitDigits rest
    if digits.isEmpty then none
    else some (digitsValue ((digits.take 9).rightpad 9 '0'), rest)
  | rest => some (0, rest)

/-- The mark between date and time. -/
def separator? : List Char → Option (List Char)
  | c :: rest => if c = 'T' ∨ c = 't' ∨ c = ' ' then some rest else none
  | [] => none

/-- An offset from UTC at the end of the text, in seconds east: `Z`, or a sign with hours and
minutes. The minus may also be the character U+2212. -/
def offset? : List Char → Option Int
  | ['Z'] => some 0
  | ['z'] => some 0
  | sign :: rest => do
    let negative ← if sign = '+' then some false
      else if sign = '-' ∨ sign = '\u2212' then some true
      else none
    let (hours, rest) ← fixed? 2 rest
    let rest ← skip? ':' rest
    let (minutes, rest) ← fixed? 2 rest
    if rest.isEmpty ∧ hours ≤ 23 ∧ minutes ≤ 59 then
      let seconds : Int := (hours * 3600 + minutes * 60 : Nat)
      some (if negative then -seconds else seconds)
    else none
  | [] => none

/-- The civil time and the offset that the whole text spells. -/
def read? (cs : List Char) : Option (Civil × Int) := do
  let (year, cs) ← fixed? 4 cs
  let cs ← skip? '-' cs
  let (month, cs) ← fixed? 2 cs
  let cs ← skip? '-' cs
  let (day, cs) ← fixed? 2 cs
  let cs ← separator? cs
  let (hour, cs) ← fixed? 2 cs
  let cs ← skip? ':' cs
  let (minute, cs) ← fixed? 2 cs
  let cs ← skip? ':' cs
  let (second, cs) ← fixed? 2 cs
  let (nanos, cs) ← fraction? cs
  let offset ← offset? cs
  let civil : Civil := ⟨year, month, day, hour, minute, second, nanos⟩
  if civil.isValid then some (civil, offset) else none

/-- A text is a timestamp when it can be read as one. -/
def isTimestamp (s : String) : Bool :=
  (read? s.toList).isSome

end TypedFilters.Rfc3339
