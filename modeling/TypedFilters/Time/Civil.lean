/-!
# Civil date-times

A date and a time of day on the proleptic Gregorian calendar, without a zone. Days are counted from
1970-01-01 by the calendar that begins its year in March, where the leap day is the last day of the
year: `Civil.daysFrom` counts them and `Civil.ofDays` is its inverse on valid dates. The second may
be 60, a leap second, in any minute.
-/

namespace TypedFilters

/-- A date and a time of day. -/
structure Civil where
  year : Int
  month : Nat
  day : Nat
  hour : Nat
  minute : Nat
  second : Nat
  nanos : Nat
  deriving DecidableEq, Repr, Inhabited

namespace Civil

/-- The first moment of year 1, which readers fill in field by field. -/
def start : Civil := ⟨1, 1, 1, 0, 0, 0, 0⟩

/-- The years that a date-time may have. -/
def yearInRange (year : Int) : Bool :=
  -262143 ≤ year && year ≤ 262142

/-- A year is a leap year when four divides it, but of the centuries only each fourth one. -/
def isLeapYear (year : Int) : Bool :=
  year % 4 == 0 && (year % 100 != 0 || year % 400 == 0)

/-- The number of days of a month. -/
def daysInMonth (year : Int) (month : Nat) : Nat :=
  match month with
  | 2 => if isLeapYear year then 29 else 28
  | 4 | 6 | 9 | 11 => 30
  | _ => 31

/-- The fields name an existing day and an existing second. -/
def isValid (c : Civil) : Bool :=
  yearInRange c.year && 1 ≤ c.month && c.month ≤ 12 && 1 ≤ c.day &&
    c.day ≤ daysInMonth c.year c.month && c.hour ≤ 23 && c.minute ≤ 59 && c.second ≤ 60 &&
    c.nanos < 1000000000

/-- The number of days in 400 years. -/
def cycleDays : Int := 146097

/-- The days from 1970-01-01 to a date. -/
def daysFrom (year : Int) (month day : Nat) : Int :=
  let marchYear := if month ≤ 2 then year - 1 else year
  let cycle := marchYear / 400
  let yearOfCycle := marchYear % 400
  let monthFromMarch := (month + 9) % 12
  let dayOfYear := (153 * monthFromMarch + 2) / 5 + day - 1
  let dayOfCycle := yearOfCycle * 365 + yearOfCycle / 4 - yearOfCycle / 100 + dayOfYear
  cycle * cycleDays + dayOfCycle - 719468

/-- The date a number of days after 1970-01-01: year, month and day. -/
def ofDays (days : Int) : Int × Nat × Nat :=
  let shifted := days + 719468
  let cycle := shifted / cycleDays
  let dayOfCycle := (shifted % cycleDays).toNat
  let yearOfCycle :=
    (dayOfCycle - dayOfCycle / 1460 + dayOfCycle / 36524 - dayOfCycle / 146096) / 365
  let dayOfYear := dayOfCycle - (365 * yearOfCycle + yearOfCycle / 4 - yearOfCycle / 100)
  let monthFromMarch := (5 * dayOfYear + 2) / 153
  let day := dayOfYear - (153 * monthFromMarch + 2) / 5 + 1
  let month := if monthFromMarch < 10 then monthFromMarch + 3 else monthFromMarch - 9
  let year := cycle * 400 + yearOfCycle + (if month ≤ 2 then 1 else 0)
  (year, month, day)

end Civil

end TypedFilters
