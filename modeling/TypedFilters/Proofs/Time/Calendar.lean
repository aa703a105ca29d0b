import Mathlib.Tactic.IntervalCases
import TypedFilters.Time.Civil

/-!
# Counting days is a bijection

Every day number is that of exactly one date: `Civil.ofDays` undoes `Civil.daysFrom` on dates
(`ofDays_daysFrom`), it always answers a date (`isDate_ofDays`), and `daysFrom` undoes it
(`daysFrom_ofDays`).

A day of a cycle of 400 years is written as `36524 * c + 1461 * q + 365 * r + doy`: full centuries,
full groups of four years, full years, and the day of the year that begins in March. Only the last
year of a group has a day 365, and in the last group of a century only that of the last century.
-/

namespace TypedFilters.Civil

/-- The numbers name a day of the calendar. -/
structure IsDate (year : Int) (month day : Nat) : Prop where
  month_pos : 1 ≤ month
  month_le : month ≤ 12
  day_pos : 1 ≤ day
  day_le : day ≤ daysInMonth year month

theorem daysInMonth_le (year : Int) (month : Nat) : daysInMonth year month ≤ 31 := by
  unfold daysInMonth
  split
  · split <;> decide
  all_goals decide

/-! ## Days of a cycle -/

section Cycle

variable {c q r doy doc : Nat}

/-- The full centuries before a day, but for the last day of the cycle. -/
theorem centuries_of_day (hc : c ≤ 3) (short : 1461 * q + 365 * r + doy ≤ 36524)
    (last : 1461 * q + 365 * r + doy = 36524 → c = 3)
    (hdoc : doc = 36524 * c + 1461 * q + 365 * r + doy) : doc / 36524 = c + doc / 146096 := by
  rcases Nat.lt_or_ge (1461 * q + 365 * r + doy) 36524 with inside | atEnd
  · have : doc / 146096 = 0 := by omega
    omega
  · have : c = 3 := by omega
    omega

/-- The full groups of 1460 days before a day. -/
theorem groups_of_day (hdoc : doc = 36524 * c + 1461 * q + 365 * r + doy) :
    doc / 1460 = 25 * c + q + (24 * c + q + 365 * r + doy) / 1460 := by
  omega

/-- The year of the cycle is found from the day of the cycle. -/
theorem year_of_day (hc : c ≤ 3) (hq : q ≤ 24) (hr : r ≤ 3) (hdoy : doy ≤ 365)
    (leap : doy = 365 → r = 3 ∧ (q < 24 ∨ c = 3))
    (hdoc : doc = 36524 * c + 1461 * q + 365 * r + doy) :
    (doc - doc / 1460 + doc / 36524 - doc / 146096) / 365 = 100 * c + 4 * q + r := by
  rw [centuries_of_day hc (by omega) (by omega) hdoc, groups_of_day hdoc]
  generalize doc / 146096 = f
  have carry : (24 * c + q + 365 * r + doy) / 1460 ≤ doy ∧
      doy < 365 + (24 * c + q + 365 * r + doy) / 1460 := by omega
  generalize (24 * c + q + 365 * r + doy) / 1460 = g at carry ⊢
  clear leap
  have shifted : doc - (25 * c + q + g) + (c + f) - f = 365 * (100 * c + 4 * q + r) + (doy - g) := by
    omega
  omega

/-- Every day of a cycle is a day of one of its years. -/
theorem exists_day (inside : doc < 146097) :
    ∃ c q r doy, c ≤ 3 ∧ q ≤ 24 ∧ r ≤ 3 ∧ doy ≤ 365 ∧ (doy = 365 → r = 3 ∧ (q < 24 ∨ c = 3)) ∧
      doc = 36524 * c + 1461 * q + 365 * r + doy := by
  let c := min (doc / 36524) 3
  let q := (doc - 36524 * c) / 1461
  let r := min ((doc - 36524 * c) % 1461 / 365) 3
  exact ⟨c, q, r, (doc - 36524 * c) % 1461 - 365 * r, by omega⟩

end Cycle

/-! ## Days of a year that begins in March -/

/-- The day of the year tells the month and the day of the month, and only the leap day is day 365. -/
theorem day_of_year {year : Int} {month day : Nat} (date : IsDate year month day) :
    (153 * ((month + 9) % 12) + 2) / 5 + day - 1 ≤ 365 ∧
      ((153 * ((month + 9) % 12) + 2) / 5 + day - 1 = 365 → month = 2 ∧ isLeapYear year) ∧
      (5 * ((153 * ((month + 9) % 12) + 2) / 5 + day - 1) + 2) / 153 = (month + 9) % 12 := by
  rcases date with ⟨h1, h2, h3, h4⟩
  interval_cases month
  case «2» =>
    simp only [daysInMonth] at h4
    split at h4
    · next leap => exact ⟨by omega, fun _ => ⟨rfl, leap⟩, by omega⟩
    · omega
  all_goals
    simp only [daysInMonth] at h4
    omega

/-- Every day of a year that begins in March is a date; `march` counts the months from there. -/
theorem isDate_of_day_of_year {year : Int} {doy march : Nat} (hdoy : doy ≤ 365)
    (leap : doy = 365 → isLeapYear (year + 1)) (hmarch : march = (5 * doy + 2) / 153) :
    IsDate (year + if march < 10 then 0 else 1) (if march < 10 then march + 3 else march - 9)
      (doy - (153 * march + 2) / 5 + 1) := by
  have : march ≤ 11 := by omega
  have day_le : doy - (153 * march + 2) / 5 + 1 ≤ daysInMonth (year + if march < 10 then 0 else 1)
      (if march < 10 then march + 3 else march - 9) := by
    interval_cases march
    case «11» =>
      simp only [daysInMonth, Nat.reduceLT, if_false, Nat.reduceSub]
      split
      · omega
      · next common =>
        have : doy ≠ 365 := fun lastDay => common (leap lastDay)
        omega
    all_goals
      simp only [daysInMonth, Nat.reduceLT, if_true, if_false, Nat.reduceAdd, Nat.reduceSub]
      omega
  exact ⟨by split <;> omega, by split <;> omega, by omega, day_le⟩

/-- A date is the one that is found from its year, counted from March, and its day of the year. -/
theorem ofDays_eq {c q r doy : Nat} {cycle days : Int} (hc : c ≤ 3) (hq : q ≤ 24) (hr : r ≤ 3)
    (hdoy : doy ≤ 365) (leap : doy = 365 → r = 3 ∧ (q < 24 ∨ c = 3))
    (hdays : days + 719468 = cycle * cycleDays + (36524 * c + 1461 * q + 365 * r + doy : Nat)) :
    ofDays days =
      let monthFromMarch := (5 * doy + 2) / 153
      let month := if monthFromMarch < 10 then monthFromMarch + 3 else monthFromMarch - 9
      (cycle * 400 + (100 * c + 4 * q + r : Nat) + (if month ≤ 2 then 1 else 0), month,
        doy - (153 * monthFromMarch + 2) / 5 + 1) := by
  have doc : ((days + 719468) % cycleDays).toNat = 36524 * c + 1461 * q + 365 * r + doy := by
    rw [hdays, cycleDays]
    omega
  have cycles : (days + 719468) / cycleDays = cycle := by
    rw [hdays, cycleDays]
    omega
  have year := year_of_day hc hq hr hdoy leap rfl
  have dayOfYear : 36524 * c + 1461 * q + 365 * r + doy -
      (365 * (100 * c + 4 * q + r) + (100 * c + 4 * q + r) / 4 - (100 * c + 4 * q + r) / 100) =
      doy := by
    omega
  simp only [ofDays, doc, cycles, year, dayOfYear]

/-- Counting the days to a date and back gives the date. -/
theorem ofDays_daysFrom {year : Int} {month day : Nat} (date : IsDate year month day) :
    ofDays (daysFrom year month day) = (year, month, day) := by
  obtain ⟨short, leap, found⟩ := day_of_year date
  rcases date with ⟨_, _, _, _⟩
  obtain ⟨marchYear, hmarch⟩ : ∃ y, y = if month ≤ 2 then year - 1 else year := ⟨_, rfl⟩
  obtain ⟨yearOfCycle, hyear⟩ : ∃ y : Nat, (y : Int) = marchYear % 400 :=
    ⟨(marchYear % 400).toNat, by omega⟩
  have counted : daysFrom year month day + 719468 = marchYear / 400 * cycleDays +
      (36524 * (yearOfCycle / 100) + 1461 * (yearOfCycle % 100 / 4) + 365 * (yearOfCycle % 4) +
        ((153 * ((month + 9) % 12) + 2) / 5 + day - 1) : Nat) := by
    simp only [daysFrom, ← hmarch, ← hyear]
    omega
  obtain ⟨doy, hdoy⟩ : ∃ d, d = (153 * ((month + 9) % 12) + 2) / 5 + day - 1 := ⟨_, rfl⟩
  rw [← hdoy] at short leap found counted
  have atEnd : doy = 365 →
      yearOfCycle % 4 = 3 ∧ (yearOfCycle % 100 / 4 < 24 ∨ yearOfCycle / 100 = 3) := by
    intro lastDay
    obtain ⟨rfl, leapYear⟩ := leap lastDay
    simp only [isLeapYear, Bool.and_eq_true, Bool.or_eq_true, beq_iff_eq, bne_iff_ne] at leapYear
    simp only [le_refl, if_true] at hmarch
    omega
  rw [ofDays_eq (by omega) (by omega) (by omega) short atEnd counted]
  have sameMonth : (if (month + 9) % 12 < 10 then (month + 9) % 12 + 3 else (month + 9) % 12 - 9) =
      month := by
    split <;> omega
  have sameYear : marchYear / 400 * 400 +
      (100 * (yearOfCycle / 100) + 4 * (yearOfCycle % 100 / 4) + yearOfCycle % 4 : Nat) +
      (if month ≤ 2 then 1 else 0) = year := by
    split at hmarch <;> omega
  have sameDay : doy - (153 * ((month + 9) % 12) + 2) / 5 + 1 = day := by omega
  simp only [found, sameMonth, sameYear, sameDay]

/-- Every number of days is that of a date. -/
theorem exists_isDate (days : Int) :
    ∃ year month day, IsDate year month day ∧ daysFrom year month day = days := by
  obtain ⟨doc, hdoc⟩ : ∃ n : Nat, (n : Int) = (days + 719468) % cycleDays :=
    ⟨((days + 719468) % cycleDays).toNat, by simp only [cycleDays]; omega⟩
  obtain ⟨c, q, r, doy, hc, hq, hr, hdoy, leap, split⟩ :=
    @exists_day doc (by simp only [cycleDays] at hdoc; omega)
  obtain ⟨cycle, hcycle⟩ : ∃ n, n = (days + 719468) / cycleDays := ⟨_, rfl⟩
  obtain ⟨march, hmarch⟩ : ∃ n, n = (5 * doy + 2) / 153 := ⟨_, rfl⟩
  obtain ⟨year, hyear⟩ : ∃ n, n = cycle * 400 + (100 * c + 4 * q + r : Nat) := ⟨_, rfl⟩
  have leapYear : doy = 365 → isLeapYear (year + 1) := by
    intro lastDay
    have := leap lastDay
    simp only [isLeapYear, Bool.and_eq_true, Bool.or_eq_true, beq_iff_eq, bne_iff_ne]
    omega
  refine ⟨_, _, _, isDate_of_day_of_year hdoy leapYear hmarch, ?_⟩
  have marchYear : (if (if march < 10 then march + 3 else march - 9) ≤ 2 then
      (year + if march < 10 then 0 else 1) - 1 else year + if march < 10 then 0 else 1) = year := by
    split <;> omega
  have fromMarch : ((if march < 10 then march + 3 else march - 9) + 9) % 12 = march := by
    split <;> omega
  have dayOfYear : (153 * march + 2) / 5 + (doy - (153 * march + 2) / 5 + 1) - 1 = doy := by omega
  have cycles : year / 400 = cycle := by omega
  have yearOfCycle : year % 400 = (100 * c + 4 * q + r : Nat) := by omega
  have leapDays : ((100 * c + 4 * q + r : Nat) : Int) / 4 = (25 * c + q : Nat) := by omega
  have common : ((100 * c + 4 * q + r : Nat) : Int) / 100 = c := by omega
  simp only [daysFrom, marchYear, fromMarch, dayOfYear, cycles, yearOfCycle, leapDays, common]
  simp only [cycleDays] at hdoc hcycle ⊢
  omega

theorem isDate_ofDays (days : Int) :
    IsDate (ofDays days).1 (ofDays days).2.1 (ofDays days).2.2 := by
  obtain ⟨year, month, day, date, rfl⟩ := exists_isDate days
  rwa [ofDays_daysFrom date]

theorem daysFrom_ofDays (days : Int) :
    daysFrom (ofDays days).1 (ofDays days).2.1 (ofDays days).2.2 = days := by
  obtain ⟨year, month, day, date, rfl⟩ := exists_isDate days
  rw [ofDays_daysFrom date]

end TypedFilters.Civil
