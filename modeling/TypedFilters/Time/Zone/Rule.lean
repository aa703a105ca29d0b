import TypedFilters.Time.Zone

/-!
# Yearly rules of daylight saving time

Where a zone changes its offset on the same Sundays year after year, the changes are generated from
a rule: the month, which of its Sundays, the second of that day in UTC, and the new offset.
-/

namespace TypedFilters

/-- A Sunday of a month: its last one, or the first one that is not before a day of the month. -/
inductive Sunday where
  | last
  | onOrAfter (day : Nat)
  deriving DecidableEq, Repr

namespace Sunday

/-- The day of the week of a day since the epoch, Sunday being zero. -/
def weekday (days : Int) : Int :=
  (days + 4) % 7

/-- The days since the epoch of the Sunday in a month of a year. -/
def daysFrom (year : Int) (month : Nat) : Sunday → Int
  | .last =>
    let lastDay := Civil.daysFrom year month (Civil.daysInMonth year month)
    lastDay - weekday lastDay
  | .onOrAfter day =>
    let start := Civil.daysFrom year month day
    start + (7 - weekday start) % 7

end Sunday

/-- A change of offset that recurs every year on a Sunday. -/
structure YearlyChange where
  month : Nat
  sunday : Sunday
  /-- The second of that day in UTC, which may lie outside of the day. -/
  second : Int
  offset : Int
  deriving DecidableEq, Repr

namespace YearlyChange

/-- The change of offset in a year. -/
def inYear (rule : YearlyChange) (year : Int) : OffsetChange :=
  ⟨rule.sunday.daysFrom year rule.month * 86400 + rule.second, rule.offset⟩

/-- The changes of several rules in the years from the first to the last, in the order of the rules
within a year. -/
def changes (first last : Nat) (rules : List YearlyChange) : List OffsetChange :=
  (List.range' first (last + 1 - first)).flatMap fun y => rules.map fun r => r.inYear (y : Int)

end YearlyChange

end TypedFilters
