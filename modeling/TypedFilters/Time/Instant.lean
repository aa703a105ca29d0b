import TypedFilters.Text.Ascii
import TypedFilters.Time.Civil

/-!
# Instants and their UTC text

An instant counts seconds from 1970-01-01T00:00:00Z and nanoseconds within the second. A leap
second is the second half of the second before it: its nanoseconds run from `10 ^ 9` to
`2 * 10 ^ 9 - 1`. `Instant.utcText` is the canonical RFC 3339 text, with the fewest of 0, 3, 6 or 9
fraction digits that lose nothing.
-/

namespace TypedFilters

/-- Seconds since the epoch, and nanoseconds, a leap second counting with the second before it. -/
structure Instant where
  seconds : Int
  nanos : Nat
  deriving DecidableEq, Repr, Inhabited

/-- The seconds from the epoch to a civil time read in UTC; second 60 counts as second 59. -/
def Civil.seconds (c : Civil) : Int :=
  daysFrom c.year c.month c.day * 86400 + (c.hour * 3600 + c.minute * 60 + min c.second 59 : Nat)

/-- The instant of a civil time whose clock is ahead of UTC by an offset in seconds. -/
def Civil.instant (c : Civil) (offset : Int) : Instant :=
  ⟨c.seconds - offset, if c.second = 60 then c.nanos + 1000000000 else c.nanos⟩

namespace Instant

/-- The civil time in UTC. -/
def civil (i : Instant) : Civil :=
  let (year, month, day) := Civil.ofDays (i.seconds / 86400)
  let s := (i.seconds % 86400).toNat
  ⟨year, month, day, s / 3600, s / 60 % 60, s % 60 + i.nanos / 1000000000, i.nanos % 1000000000⟩

/-- A number in decimal with zeros in front up to a width. -/
def padded (width n : Nat) : List Char :=
  (Nat.toDigits 10 n).leftpad width '0'

/-- A year of four digits, and outside of 0 to 9999 with a sign in front. -/
def yearText (year : Int) : List Char :=
  if 0 ≤ year ∧ year ≤ 9999 then padded 4 year.toNat
  else (if year < 0 then '-' else '+') :: padded 4 year.natAbs

/-- The fraction of a second with the fewest of 0, 3, 6 or 9 digits that lose nothing. -/
def fractionText (nanos : Nat) : List Char :=
  if nanos = 0 then []
  else if nanos % 1000000 = 0 then '.' :: padded 3 (nanos / 1000000)
  else if nanos % 1000 = 0 then '.' :: padded 6 (nanos / 1000)
  else '.' :: padded 9 nanos

/-- A civil time in UTC as RFC 3339 text. -/
def civilText (c : Civil) : List Char :=
  yearText c.year ++ '-' :: padded 2 c.month ++ '-' :: padded 2 c.day ++ 'T' :: padded 2 c.hour ++
    ':' :: padded 2 c.minute ++ ':' :: padded 2 c.second ++ fractionText c.nanos ++ ['Z']

/-- The canonical text of an instant. -/
def utcText (i : Instant) : String :=
  String.ofList (civilText i.civil)

end Instant

end TypedFilters
