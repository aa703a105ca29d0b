import TypedFilters.Proofs.Time.Spelling
import TypedFilters.Proofs.Time.Timestamp

/-!
# Conversion of timestamps to UTC

Where a clock that is ahead of UTC shows a time, clocks in UTC show the time so many minutes before it
(`Civil.isAhead_civil_instant`). A timestamp is converted to the spelling of that time, whatever the
zone that is given beside it (`toUtcText?_of_spells`), and two timestamps are converted to the same text
exactly if they denote the same instant (`converted_to_utc`).
-/

namespace TypedFilters

open Civil

section Instants

variable {c d : Civil} (minutes : Int)

/-- Up to the minute, a civil time counts the seconds of its instant. -/
theorem Instant.seconds_civil (i : Instant) :
    i.civil.seconds = i.seconds - i.seconds % 60 + (min i.civil.second 59 : Nat) := by
  have days : daysFrom i.civil.year i.civil.month i.civil.day = i.seconds / 86400 :=
    daysFrom_ofDays (i.seconds / 86400)
  have clock : i.civil.hour * 3600 + i.civil.minute * 60 = (i.seconds % 86400).toNat / 60 * 60 := by
    simp only [Instant.civil]
    omega
  rw [Civil.seconds, days, clock]
  omega

/-- A minute has its leap second at its end, so an offset of whole minutes leaves it there. -/
theorem Civil.fields_civil_instant (time : c.IsTime) :
    (c.instant (60 * minutes)).civil.seconds = c.seconds - 60 * minutes ∧
      (c.instant (60 * minutes)).civil.second = c.second ∧
        (c.instant (60 * minutes)).civil.nanos = c.nanos := by
  rcases time with ⟨_, _, _, second_le, nanos_lt⟩
  have inMinute : (c.seconds - 60 * minutes) % 60 = (min c.second 59 : Nat) := by
    rw [Civil.seconds]
    omega
  have second : (c.instant (60 * minutes)).civil.second = c.second := by
    simp only [Instant.civil, Civil.instant]
    split <;> omega
  have nanos : (c.instant (60 * minutes)).civil.nanos = c.nanos := by
    simp only [Instant.civil, Civil.instant]
    split <;> omega
  refine ⟨?_, second, nanos⟩
  rw [Instant.seconds_civil, second, ← inMinute, Civil.instant, sub_add_cancel]

theorem Civil.isTime_civil_instant (time : c.IsTime) : (c.instant (60 * minutes)).civil.IsTime := by
  apply isTime_civil
  have small := time.nanos_lt
  simp only [Civil.instant]
  split <;> omega

theorem Civil.isAhead_civil_instant (time : c.IsTime) :
    IsAhead minutes c (c.instant (60 * minutes)).civil := by
  obtain ⟨seconds, second, nanos⟩ := fields_civil_instant minutes time
  refine (isAhead_iff time (isTime_civil_instant minutes time)).mpr ⟨?_, second.symm, nanos.symm⟩
  rw [seconds, sub_add_cancel]

/-- Two clocks show the same instant exactly if clocks in UTC show the same time. -/
theorem Civil.civil_instant_eq_iff (minutes' : Int) (left : c.IsTime) (right : d.IsTime) :
    (c.instant (60 * minutes)).civil = (d.instant (60 * minutes')).civil ↔
      IsAhead (minutes - minutes') c d := by
  obtain ⟨seconds, second, nanos⟩ := fields_civil_instant minutes left
  obtain ⟨seconds', second', nanos'⟩ := fields_civil_instant minutes' right
  rw [isAhead_iff left right]
  constructor
  · intro same
    rw [← same] at seconds' second' nanos'
    exact ⟨by omega, second.symm.trans second', nanos.symm.trans nanos'⟩
  · rintro ⟨apart, sameSecond, sameNanos⟩
    apply (isTime_civil_instant minutes left).eq_of_seconds_eq (isTime_civil_instant minutes' right)
    · omega
    · rw [second, second', sameSecond]
    · rw [nanos, nanos', sameNanos]

end Instants

theorem Instant.utcText_eq_iff {i j : Instant} (left : i.civil.IsTime) (right : j.civil.IsTime) :
    i.utcText = j.utcText ↔ i.civil = j.civil := by
  rw [Instant.utcText, Instant.utcText, String.ofList_inj]
  constructor
  · intro same
    have spelled := spellsUtc_civilText left
    rw [same] at spelled
    exact spelled.time_unique (spellsUtc_civilText right)
  · exact congrArg Instant.civilText

section Timestamps

variable {c d : Civil} {a b : String} {o p : Int}

theorem Rfc3339.Spells.isTime {cs : List Char} (spells : Rfc3339.Spells c o cs) : c.IsTime := by
  cases spells with
  | timestamp valid => exact isTime_of_isValid valid

/-- A timestamp has an offset of its own, so the zone does not matter. -/
theorem toUtcText?_of_spells (zone : Zone) (spells : Rfc3339.Spells c o a.toList) :
    toUtcText? zone a = some (c.instant (60 * o)).utcText := by
  rw [toUtcText?, spells.trimChars_eq, instant?, Rfc3339.spells_iff.mp spells, Option.map_some]

/-- A timestamp is converted to the one spelling of a time that its own clock is ahead of by the offset,
in whatever zone. Two timestamps are converted to one text exactly if the one clock shows the first time
when the other clock shows the second. -/
theorem converted_to_utc (zone zone' : Zone) (spells : Rfc3339.Spells c o a.toList)
    (spells' : Rfc3339.Spells d p b.toList) :
    (∃ s u, toUtcText? zone a = some s ∧ toUtcText? zone' a = some s ∧ u.IsTime ∧ IsAhead o c u ∧
      ∀ cs, SpellsUtc u cs ↔ cs = s.toList) ∧
    (toUtcText? zone a = toUtcText? zone' b ↔ IsAhead (o - p) c d) := by
  have left := isTime_civil_instant o spells.isTime
  have right := isTime_civil_instant p spells'.isTime
  constructor
  · refine ⟨_, (c.instant (60 * o)).civil, toUtcText?_of_spells zone spells,
      toUtcText?_of_spells zone' spells, left, isAhead_civil_instant o spells.isTime, fun cs => ?_⟩
    rw [Instant.utcText, String.toList_ofList]
    exact spellsUtc_iff left
  · rw [toUtcText?_of_spells zone spells, toUtcText?_of_spells zone' spells', Option.some.injEq,
      Instant.utcText_eq_iff left right, civil_instant_eq_iff o p spells.isTime spells'.isTime]

/-- Half past midnight on the first of March, an hour east of UTC, is half past eleven on the leap day,
also within a leap second. -/
theorem converted_to_utc_of_leap_day :
    let c : Civil := ⟨2024, 3, 1, 0, 30, 60, 500000000⟩
    let d : Civil := ⟨2024, 2, 29, 23, 30, 60, 500000000⟩
    let a := "2024-03-01T00:30:60.5+01:00"
    let b := "2024-02-29 23:30:60.50000000099z"
    let zone : Zone := ⟨"UTC", 0, []⟩
    let zone' : Zone := ⟨"Asia/Kolkata", 19800, []⟩
    (Rfc3339.Spells c 60 a.toList ∧ Rfc3339.Spells d 0 b.toList) ∧
      (∃ s u, toUtcText? zone a = some s ∧ toUtcText? zone' a = some s ∧ u.IsTime ∧ IsAhead 60 c u ∧
        ∀ cs, SpellsUtc u cs ↔ cs = s.toList) ∧
      IsAhead 60 c d ∧ toUtcText? zone a = toUtcText? zone' b := by
  intro c d a b zone zone'
  have spells : Rfc3339.Spells c 60 a.toList := Rfc3339.spells_iff.mpr (by decide)
  have spells' : Rfc3339.Spells d 0 b.toList := Rfc3339.spells_iff.mpr (by decide)
  have ahead : IsAhead 60 c d := by
    rw [isAhead_iff spells.isTime spells'.isTime]
    decide
  obtain ⟨found, same⟩ := converted_to_utc zone zone' spells spells'
  exact ⟨⟨spells, spells'⟩, found, ahead, same.mpr ahead⟩

end Timestamps

end TypedFilters
