import Mathlib.Logic.Function.Iterate
import TypedFilters.Proofs.Time.Instant

/-!
# Clocks that are minutes apart

Time passes minute by minute on a calendar with leap days: `Civil.nextMinute` carries from the minute to
the hour, the day, the month and the year. Two clocks that are a number of minutes apart show times that
many such steps apart (`Civil.IsAhead`). Counting days and seconds agrees with this
(`seconds_nextMinute`): the later time is the one with so many more seconds, and with the same second
and fraction (`isAhead_iff`).
-/

namespace TypedFilters.Civil

/-! ## Days -/

/-- The days from 1970-01-01 to the first of March of a year. -/
def daysToMarch (year : Int) : Int :=
  year / 400 * cycleDays + (year % 400 * 365 + year % 400 / 4 - year % 400 / 100) - 719468

/-- A date is so many days after a first of March: that of its year, or of the year before. -/
theorem daysFrom_eq (year : Int) (month day : Nat) :
    daysFrom year month day = daysToMarch (if month ≤ 2 then year - 1 else year) +
      ((153 * ((month + 9) % 12) + 2) / 5 + day - 1 : Nat) := by
  simp only [daysFrom, daysToMarch]
  omega

theorem daysToMarch_succ (year : Int) :
    daysToMarch (year + 1) = daysToMarch year + daysInMonth (year + 1) 2 + 337 := by
  simp only [daysToMarch, daysInMonth, isLeapYear, cycleDays, Bool.and_eq_true, Bool.or_eq_true,
    beq_iff_eq, bne_iff_ne]
  split <;> omega

theorem daysFrom_day_succ (year : Int) (month : Nat) {day : Nat} (pos : 1 ≤ day) :
    daysFrom year month (day + 1) = daysFrom year month day + 1 := by
  rw [daysFrom_eq, daysFrom_eq]
  omega

theorem daysFrom_month_succ (year : Int) {month : Nat} (pos : 1 ≤ month) (lt : month < 12) :
    daysFrom year (month + 1) 1 = daysFrom year month (daysInMonth year month) + 1 := by
  rw [daysFrom_eq, daysFrom_eq]
  interval_cases month
  case «2» =>
    have march := daysToMarch_succ (year - 1)
    rw [sub_add_cancel] at march
    simp only [Nat.reduceAdd, Nat.reduceLeDiff, if_true, if_false, march]
    omega
  all_goals
    simp only [daysInMonth, Nat.reduceAdd, Nat.reduceLeDiff, if_true, if_false]
    omega

theorem daysFrom_year_succ (year : Int) : daysFrom (year + 1) 1 1 = daysFrom year 12 31 + 1 := by
  simp only [daysFrom_eq, Nat.reduceLeDiff, if_true, if_false, add_sub_cancel_right]
  omega

/-! ## Times -/

/-- The fields name an existing day, in whatever year, and an existing moment of it. -/
structure IsTime (c : Civil) : Prop where
  date : IsDate c.year c.month c.day
  hour_le : c.hour ≤ 23
  minute_le : c.minute ≤ 59
  second_le : c.second ≤ 60
  nanos_lt : c.nanos < 1000000000

theorem isTime_of_isValid {c : Civil} (valid : c.isValid) : c.IsTime := by
  obtain ⟨_, date, hour, minute, second, nanos⟩ := (isValid_iff c).mp valid
  exact ⟨date, hour, minute, second, nanos⟩

/-- Whatever its year, the civil time of an instant is a time. -/
theorem isTime_civil {i : Instant} (nanos : i.nanos < 2000000000) : i.civil.IsTime := by
  constructor
  case date => exact isDate_ofDays (i.seconds / 86400)
  all_goals
    simp only [Instant.civil]
    omega

/-- A time is known from its count of seconds, its second and its fraction. -/
theorem IsTime.eq_of_seconds_eq {c d : Civil} (left : c.IsTime) (right : d.IsTime)
    (seconds : c.seconds = d.seconds) (second : c.second = d.second) (nanos : c.nanos = d.nanos) :
    c = d := by
  have leftDate := ofDays_daysFrom left.date
  have rightDate := ofDays_daysFrom right.date
  rcases left with ⟨_, _, _, _, _⟩
  rcases right with ⟨_, _, _, _, _⟩
  simp only [Civil.seconds, second] at seconds
  have days : daysFrom c.year c.month c.day = daysFrom d.year d.month d.day := by omega
  rw [days, rightDate] at leftDate
  simp only [Prod.mk.injEq] at leftDate
  rcases leftDate with ⟨year, month, day⟩
  rcases c with ⟨_, _, _, _, _, _, _⟩
  rcases d with ⟨_, _, _, _, _, _, _⟩
  simp only [mk.injEq] at *
  omega

/-! ## Minutes -/

/-- The time one minute later, carried to the hour, the day, the month and the year. -/
def nextMinute (c : Civil) : Civil :=
  if c.minute < 59 then { c with minute := c.minute + 1 }
  else if c.hour < 23 then { c with hour := c.hour + 1, minute := 0 }
  else if c.day < daysInMonth c.year c.month then
    { c with day := c.day + 1, hour := 0, minute := 0 }
  else if c.month < 12 then { c with month := c.month + 1, day := 1, hour := 0, minute := 0 }
  else { c with year := c.year + 1, month := 1, day := 1, hour := 0, minute := 0 }

theorem second_nextMinute (c : Civil) : c.nextMinute.second = c.second := by
  unfold nextMinute
  split_ifs <;> rfl

theorem nanos_nextMinute (c : Civil) : c.nextMinute.nanos = c.nanos := by
  unfold nextMinute
  split_ifs <;> rfl

theorem daysInMonth_pos (year : Int) (month : Nat) : 1 ≤ daysInMonth year month := by
  unfold daysInMonth
  split
  · split <;> decide
  all_goals decide

theorem isTime_nextMinute {c : Civil} (time : c.IsTime) : c.nextMinute.IsTime := by
  rcases time with ⟨⟨month_pos, month_le, day_pos, day_le⟩, hour, minute, second, nanos⟩
  have zero := Nat.zero_le 59
  have midnight := Nat.zero_le 23
  have first := Nat.le_refl 1
  have january : 1 ≤ 12 := by decide
  unfold nextMinute
  split_ifs with inHour inDay inMonth inYear
  · exact ⟨⟨month_pos, month_le, day_pos, day_le⟩, hour, inHour, second, nanos⟩
  · exact ⟨⟨month_pos, month_le, day_pos, day_le⟩, inDay, zero, second, nanos⟩
  · exact ⟨⟨month_pos, month_le, Nat.le_add_left 1 c.day, inMonth⟩, midnight, zero, second, nanos⟩
  · exact ⟨⟨Nat.le_add_left 1 c.month, inYear, first, daysInMonth_pos _ _⟩, midnight, zero, second,
      nanos⟩
  · exact ⟨⟨first, january, first, daysInMonth_pos _ _⟩, midnight, zero, second, nanos⟩

theorem seconds_nextMinute {c : Civil} (time : c.IsTime) : c.nextMinute.seconds = c.seconds + 60 := by
  rcases time with ⟨⟨month_pos, month_le, day_pos, day_le⟩, hour, minute, _, _⟩
  unfold nextMinute Civil.seconds
  split_ifs with inHour inDay inMonth inYear
  · dsimp only
    omega
  · dsimp only
    omega
  · have tomorrow := daysFrom_day_succ c.year c.month day_pos
    dsimp only
    omega
  · have lastDay : c.day = daysInMonth c.year c.month := by omega
    have tomorrow := daysFrom_month_succ c.year month_pos inYear
    dsimp only
    rw [lastDay]
    omega
  · have lastMonth : c.month = 12 := by omega
    have lastDay : c.day = 31 := by
      rw [lastMonth] at day_le inMonth
      simp only [daysInMonth] at day_le inMonth
      omega
    have tomorrow := daysFrom_year_succ c.year
    dsimp only
    rw [lastMonth, lastDay]
    omega

section Later

variable {c : Civil} (n : Nat)

theorem isTime_iterate (time : c.IsTime) : (nextMinute^[n] c).IsTime := by
  induction n with
  | zero => exact time
  | succ n ih =>
    rw [Function.iterate_succ_apply']
    exact isTime_nextMinute ih

theorem second_iterate : (nextMinute^[n] c).second = c.second := by
  induction n with
  | zero => rfl
  | succ n ih => rw [Function.iterate_succ_apply', second_nextMinute, ih]

theorem nanos_iterate : (nextMinute^[n] c).nanos = c.nanos := by
  induction n with
  | zero => rfl
  | succ n ih => rw [Function.iterate_succ_apply', nanos_nextMinute, ih]

theorem seconds_iterate (time : c.IsTime) : (nextMinute^[n] c).seconds = c.seconds + 60 * n := by
  induction n with
  | zero => simp only [Function.iterate_zero_apply, Nat.cast_zero, mul_zero, add_zero]
  | succ n ih =>
    rw [Function.iterate_succ_apply', seconds_nextMinute (isTime_iterate n time), ih]
    omega

/-- So many minutes later it is a given time exactly if this has the same second and fraction and comes
so many seconds later. -/
theorem iterate_eq_iff {d : Civil} (left : c.IsTime) (right : d.IsTime) :
    nextMinute^[n] c = d ↔
      d.seconds = c.seconds + 60 * n ∧ d.second = c.second ∧ d.nanos = c.nanos := by
  constructor
  · rintro rfl
    exact ⟨seconds_iterate n left, second_iterate n, nanos_iterate n⟩
  · rintro ⟨seconds, second, nanos⟩
    apply (isTime_iterate n left).eq_of_seconds_eq right
    · rw [seconds_iterate n left, seconds]
    · rw [second_iterate, second]
    · rw [nanos_iterate, nanos]

end Later

/-- A clock that is ahead by a number of minutes shows the first time when the other clock shows the
second one. -/
def IsAhead : Int → Civil → Civil → Prop
  | .ofNat n, fast, slow => nextMinute^[n] slow = fast
  | .negSucc n, fast, slow => nextMinute^[n + 1] fast = slow

theorem isAhead_iff {minutes : Int} {c d : Civil} (left : c.IsTime) (right : d.IsTime) :
    IsAhead minutes c d ↔
      c.seconds = d.seconds + 60 * minutes ∧ c.second = d.second ∧ c.nanos = d.nanos := by
  cases minutes with
  | ofNat n => exact iterate_eq_iff n right left
  | negSucc n =>
    rw [IsAhead, iterate_eq_iff (n + 1) left right]
    constructor
    · rintro ⟨seconds, second, nanos⟩
      exact ⟨by omega, second.symm, nanos.symm⟩
    · rintro ⟨seconds, second, nanos⟩
      exact ⟨by omega, second.symm, nanos.symm⟩

end TypedFilters.Civil
