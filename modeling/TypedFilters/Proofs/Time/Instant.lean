import TypedFilters.Proofs.Time.Calendar
import TypedFilters.Proofs.Time.LocalOffsets
import TypedFilters.Time.Utc

/-!
# Instants and civil times in UTC

The civil time of an instant is a valid one (`Instant.isValid_civil`), and reading a valid civil time
in UTC and showing it again gives that civil time (`Civil.civil_instant`), leap seconds included. What
`instant?` answers has the nanoseconds of one second, or of a leap second (`nanos_lt_of_instant?`).
-/

namespace TypedFilters

theorem Civil.isValid_iff (c : Civil) :
    c.isValid ↔ Civil.yearInRange c.year ∧ Civil.IsDate c.year c.month c.day ∧ c.hour ≤ 23 ∧
      c.minute ≤ 59 ∧ c.second ≤ 60 ∧ c.nanos < 1000000000 := by
  simp only [isValid, Bool.and_eq_true, decide_eq_true_eq]
  constructor
  · intro valid
    rcases valid with
      ⟨⟨⟨⟨⟨⟨⟨⟨year, month_pos⟩, month_le⟩, day_pos⟩, day_le⟩, hour⟩, minute⟩, second⟩, nanos⟩
    exact ⟨year, ⟨month_pos, month_le, day_pos, day_le⟩, hour, minute, second, nanos⟩
  · intro parts
    rcases parts with
      ⟨year, ⟨month_pos, month_le, day_pos, day_le⟩, hour, minute, second, nanos⟩
    exact ⟨⟨⟨⟨⟨⟨⟨⟨year, month_pos⟩, month_le⟩, day_pos⟩, day_le⟩, hour⟩, minute⟩, second⟩, nanos⟩

/-- The civil time of an instant is valid, if its year is one that a date-time may have. -/
theorem Instant.isValid_civil {i : Instant} (nanos : i.nanos < 2000000000)
    (year : Civil.yearInRange i.civil.year) : i.civil.isValid := by
  rw [Civil.isValid_iff]
  have date := Civil.isDate_ofDays (i.seconds / 86400)
  refine ⟨year, date, ?_⟩
  simp only [civil]
  omega

/-- Showing the instant of a civil time in UTC gives the civil time again. -/
theorem Civil.civil_instant {c : Civil} (valid : c.isValid) : (c.instant 0).civil = c := by
  obtain ⟨_, date, hour, minute, second, nanos⟩ := (Civil.isValid_iff c).mp valid
  have ofDays := Civil.ofDays_daysFrom date
  rcases c with ⟨year, month, day, h, m, s, n⟩
  simp only at hour minute second nanos ofDays
  have days : (Civil.seconds ⟨year, month, day, h, m, s, n⟩ - 0) / 86400 =
      Civil.daysFrom year month day := by
    simp only [Civil.seconds]
    omega
  have clock : ((Civil.seconds ⟨year, month, day, h, m, s, n⟩ - 0) % 86400).toNat =
      h * 3600 + m * 60 + min s 59 := by
    simp only [Civil.seconds]
    omega
  simp only [Instant.civil, Civil.instant, days, clock, ofDays, Civil.mk.injEq, true_and]
  split <;> omega

theorem Rfc3339.isValid_of_read? {cs : List Char} {c : Civil} {offset : Int}
    (read : Rfc3339.read? cs = some (c, offset)) : c.isValid := by
  unfold Rfc3339.read? at read
  -- The thirteen parts of a timestamp are read before the civil time is checked.
  iterate 13 obtain ⟨_, _, read⟩ := Option.bind_eq_some_iff.mp read
  dsimp only at read
  split at read
  · next valid =>
    cases read
    exact valid
  · cases read

theorem LocalTime.isValid_of_read? {cs : List Char} {c : Civil}
    (read : LocalTime.read? cs = some c) : c.isValid := by
  obtain ⟨parts, _, readFormat⟩ := List.exists_of_findSome?_eq_some read
  exact (Option.filter_eq_some_iff.mp readFormat).2

theorem Civil.nanos_instant_lt {c : Civil} (valid : c.isValid) (offset : Int) :
    (c.instant offset).nanos < 2000000000 := by
  have := ((Civil.isValid_iff c).mp valid).2.2.2.2.2
  simp only [Civil.instant]
  split <;> omega

theorem Civil.instantInRange?_eq_some_iff {c : Civil} {offset : Int} {i : Instant} :
    c.instantInRange? offset = some i ↔ Civil.yearInRange i.civil.year ∧ i = c.instant offset := by
  rw [Civil.instantInRange?]
  split
  · next inRange =>
    rw [Option.some_inj]
    exact ⟨fun same => ⟨same ▸ inRange, same.symm⟩, fun same => same.2.symm⟩
  · next outOfRange =>
    refine iff_of_false nofun fun same => ?_
    exact outOfRange (same.2 ▸ same.1)

theorem Zone.exists_of_instant? {zone : Zone} {c : Civil} {i : Instant}
    (found : zone.instant? c = some i) :
    ∃ offset ∈ (zone.localOffsets c.seconds).toList, i = c.instant offset := by
  obtain ⟨offset, among, instant⟩ := LocalResult.exists_of_earliest?_andThen found
  exact ⟨offset, among, (Civil.instantInRange?_eq_some_iff.mp instant).2⟩

theorem nanos_lt_of_instant? {zone : Zone} {cs : List Char} {i : Instant}
    (spelled : instant? zone cs = some i) : i.nanos < 2000000000 := by
  unfold instant? at spelled
  split at spelled
  · next c offset read =>
    cases spelled
    exact Civil.nanos_instant_lt (Rfc3339.isValid_of_read? read) offset
  · obtain ⟨c, read, found⟩ := Option.bind_eq_some_iff.mp spelled
    obtain ⟨offset, _, rfl⟩ := Zone.exists_of_instant? found
    exact Civil.nanos_instant_lt (LocalTime.isValid_of_read? read) offset

end TypedFilters
