import TypedFilters.Proofs.Time.Conversion
import TypedFilters.Proofs.Time.LocalOffsets
import TypedFilters.Proofs.Time.Skeleton

/-!
# Local times denote the earliest instant

A local time within a minute may be shown by the clocks of a zone at several instants, and denotes the
earliest of them (`Zone.instant?_eq_some_iff`). A local date-time is converted to the spelling of that
instant in UTC. If clocks never show the time, they are put forward over it, and there is no text
(`local_time_at_earliest_instant`). This is said of every zone whose changes of offset are as far apart
as the search by halves takes for granted (`Zone.IsSpaced`).
-/

namespace TypedFilters

open Text

/-! ## Times within a minute -/

/-- The text spells the time in UTC that is so many seconds and nanoseconds after the epoch. -/
def SpellsInstant (seconds : Int) (nanos : Nat) (s : String) : Prop :=
  ∃ d : Civil, (d.IsTime ∧ d.second ≤ 59) ∧ d.seconds = seconds ∧ d.nanos = nanos ∧
    SpellsUtc d s.toList

section Times

variable {c : Civil}

/-- A year has 31556952 seconds on average, and a leap day moves it by less than a year. -/
theorem Civil.seconds_bounds (time : c.IsTime) :
    31556952 * (c.year - 1971) ≤ c.seconds ∧ c.seconds ≤ 31556952 * (c.year - 1968) := by
  rcases time with ⟨⟨_, month_le, _, day_le⟩, _, _, _, _⟩
  have short := daysInMonth_le c.year c.month
  rw [Civil.seconds, daysFrom_eq, daysToMarch, cycleDays]
  generalize daysInMonth c.year c.month = days at *
  split <;> omega

theorem Civil.instant_of_second_le (second_le : c.second ≤ 59) (offset : Int) :
    c.instant offset = ⟨c.seconds - offset, c.nanos⟩ := by
  rw [Civil.instant, if_neg (by omega)]

theorem Civil.second_of_seconds (second_le : c.second ≤ 59) : (c.second : Int) = c.seconds % 60 := by
  rw [Civil.seconds]
  omega

section Shown

variable {nanos : Nat}

/-- The civil time of an instant that is in no leap second. -/
theorem Instant.fields_civil (seconds : Int) (nanos_lt : nanos < 1000000000) :
    (⟨seconds, nanos⟩ : Instant).civil.IsTime ∧ (⟨seconds, nanos⟩ : Instant).civil.second ≤ 59 ∧
      (⟨seconds, nanos⟩ : Instant).civil.seconds = seconds ∧
        (⟨seconds, nanos⟩ : Instant).civil.nanos = nanos := by
  have second : (⟨seconds, nanos⟩ : Instant).civil.second = (seconds % 60).toNat := by
    simp only [Instant.civil]
    omega
  have fraction : (⟨seconds, nanos⟩ : Instant).civil.nanos = nanos := by
    simp only [Instant.civil]
    omega
  refine ⟨Civil.isTime_civil (by dsimp only; omega), by omega, ?_, fraction⟩
  rw [Instant.seconds_civil, second]
  dsimp only
  omega

theorem Civil.eq_civil (time : c.IsTime) (second_le : c.second ≤ 59) :
    c = (⟨c.seconds, c.nanos⟩ : Instant).civil := by
  obtain ⟨isTime, second, seconds, nanos⟩ := Instant.fields_civil c.seconds time.nanos_lt
  refine time.eq_of_seconds_eq isTime seconds.symm ?_ nanos.symm
  have same := Civil.second_of_seconds second
  rw [seconds, ← Civil.second_of_seconds second_le] at same
  exact (Int.ofNat_inj.mp same).symm

theorem spellsInstant_iff {seconds : Int} (nanos_lt : nanos < 1000000000) {s : String} :
    SpellsInstant seconds nanos s ↔ s = (⟨seconds, nanos⟩ : Instant).utcText := by
  obtain ⟨time, second_le, same, fraction⟩ := Instant.fields_civil seconds nanos_lt
  constructor
  · rintro ⟨d, ⟨isTime, within⟩, rfl, rfl, spells⟩
    rw [Instant.utcText, ← Civil.eq_civil isTime within, ← (spellsUtc_iff isTime).mp spells,
      String.ofList_toList]
  · rintro rfl
    refine ⟨_, ⟨time, second_le⟩, same, fraction, ?_⟩
    rw [Instant.utcText, String.toList_ofList]
    exact spellsUtc_civilText time

end Shown

end Times

/-! ## Local times -/

section Local

variable {zone : Zone} {c : Civil} {parts : List LocalTime.Part} {s : String}

/-- A local time in one of the years 0 to 9999 denotes the earliest instant at which clocks show it. -/
theorem Zone.instant?_eq_some_iff (spaced : zone.IsSpaced)
    (offsets : ∀ o ∈ zone.offsets, |o| < 2 ^ 31) (time : c.IsTime) (year_nonneg : 0 ≤ c.year)
    (year_le : c.year ≤ 9999) (second_le : c.second ≤ 59) {i : Instant} :
    zone.instant? c = some i ↔ IsLeast {utc | zone.clock utc = c.seconds} i.seconds ∧
      i.nanos = c.nanos := by
  have inRange : ∀ utc, zone.clock utc = c.seconds →
      Civil.yearInRange (⟨utc, c.nanos⟩ : Instant).civil.year := by
    intro utc shows
    obtain ⟨isTime, _, same, _⟩ := Instant.fields_civil utc time.nanos_lt
    have offset := abs_lt.mp (offsets _ (zone.offsetAt_mem_offsets utc))
    have bounds := Civil.seconds_bounds isTime
    have local_bounds := Civil.seconds_bounds time
    rw [same] at bounds
    rw [clock] at shows
    simp only [Civil.yearInRange, Bool.and_eq_true, decide_eq_true_eq]
    omega
  have given : ∀ o ∈ (zone.localOffsets c.seconds).toList,
      c.instantInRange? o = some ⟨c.seconds - o, c.nanos⟩ := by
    intro o among
    rw [Civil.instantInRange?_eq_some_iff, Civil.instant_of_second_le second_le]
    exact ⟨inRange _ (Zone.clock_of_mem_localOffsets spaced.isChronological among), rfl⟩
  rw [Zone.instant?, LocalResult.earliest?_andThen given, Option.map_eq_some_iff]
  constructor
  · rintro ⟨o, first, rfl⟩
    exact ⟨(Zone.earliest?_localOffsets_eq_some_iff spaced).mp first, rfl⟩
  · rcases i with ⟨utc, nanos⟩
    rintro ⟨least, rfl⟩
    refine ⟨c.seconds - utc, (Zone.earliest?_localOffsets_eq_some_iff spaced).mpr ?_, ?_⟩ <;>
      rw [sub_sub_cancel]
    exact least

theorem toUtcText?_of_readFormat? (known : parts ∈ LocalTime.formats)
    (reads : LocalTime.readFormat? parts (trimChars s.toList) = some c) :
    toUtcText? zone s = (zone.instant? c).map Instant.utcText := by
  obtain ⟨read, valid⟩ := Option.filter_eq_some_iff.mp reads
  rw [toUtcText?, LocalTime.instant?_of_readParts? zone known read, Option.filter_some, if_pos valid,
    Option.bind_some]

/-- The text of a local time spells the earliest instant at which clocks show it. -/
theorem map_utcText_instant?_eq_some_iff (spaced : zone.IsSpaced)
    (offsets : ∀ o ∈ zone.offsets, |o| < 2 ^ 31) (time : c.IsTime) (year_nonneg : 0 ≤ c.year)
    (year_le : c.year ≤ 9999) (second_le : c.second ≤ 59) {t : String} :
    (zone.instant? c).map Instant.utcText = some t ↔
      ∃ utc, IsLeast {u | zone.clock u = c.seconds} utc ∧ SpellsInstant utc c.nanos t := by
  simp only [Option.map_eq_some_iff, spellsInstant_iff time.nanos_lt,
    Zone.instant?_eq_some_iff spaced offsets time year_nonneg year_le second_le]
  constructor
  · rintro ⟨⟨utc, _⟩, ⟨least, rfl⟩, rfl⟩
    exact ⟨utc, least, rfl⟩
  · rintro ⟨utc, least, rfl⟩
    exact ⟨⟨utc, c.nanos⟩, ⟨least, rfl⟩, rfl⟩

/-- A text without an offset that a format reads as a local time is converted exactly if clocks of the zone
show that time at some instant, and not converted exactly if they are put forward over it and never show
it. The text in UTC spells the earliest of the instants, and the clock shows the local time there. -/
theorem local_time_at_earliest_instant (spaced : zone.IsSpaced)
    (offsets : ∀ o ∈ zone.offsets, |o| < 2 ^ 31) (known : parts ∈ LocalTime.formats)
    (reads : LocalTime.readFormat? parts (trimChars s.toList) = some c) (year_nonneg : 0 ≤ c.year)
    (year_le : c.year ≤ 9999) (second_le : c.second ≤ 59) :
    ((toUtcText? zone s).isSome ↔ ∃ utc, zone.clock utc = c.seconds) ∧
    (toUtcText? zone s = none ↔ zone.IsGap c.seconds) ∧
    ∀ t, toUtcText? zone s = some t ↔
      ∃ utc, IsLeast {u | zone.clock u = c.seconds} utc ∧ SpellsInstant utc c.nanos t ∧
        (⟨zone.clock utc, c.nanos⟩ : Instant).civil = c := by
  have time := Civil.isTime_of_isValid (Option.filter_eq_some_iff.mp reads).2
  have text : ∀ t, toUtcText? zone s = some t ↔
      ∃ utc, IsLeast {u | zone.clock u = c.seconds} utc ∧ SpellsInstant utc c.nanos t := by
    intro t
    rw [toUtcText?_of_readFormat? known reads]
    exact map_utcText_instant?_eq_some_iff spaced offsets time year_nonneg year_le second_le
  have converted : (toUtcText? zone s).isSome ↔ ∃ utc, zone.clock utc = c.seconds := by
    rw [Option.isSome_iff_exists]
    constructor
    · rintro ⟨t, eq⟩
      obtain ⟨utc, least, _⟩ := (text t).mp eq
      exact ⟨utc, least.1⟩
    · rintro ⟨utc, shows⟩
      obtain ⟨earliest, least⟩ := Zone.exists_isLeast spaced shows
      exact ⟨_, (text _).mpr ⟨earliest, least, (spellsInstant_iff time.nanos_lt).mpr rfl⟩⟩
  refine ⟨converted, ?_, fun t => ?_⟩
  · rw [Zone.isGap_iff, ← Option.not_isSome_iff_eq_none, converted, not_exists]
  · rw [text]
    constructor
    · rintro ⟨utc, least, spells⟩
      have shows : zone.clock utc = c.seconds := least.1
      exact ⟨utc, least, spells, by rw [shows, ← Civil.eq_civil time second_le]⟩
    · rintro ⟨utc, least, spells, _⟩
      exact ⟨utc, least, spells⟩

/-- In Monrovia clocks were put back by 82 seconds at midnight in 1919, so they showed a minute twice. In
1972 they were put forward by 44 minutes and a half. -/
theorem local_time_at_earliest_instant_of_monrovia :
    let zone : Zone := ⟨"Africa/Monrovia", -2588, [⟨-1604359012, -2670⟩, ⟨63593070, 0⟩]⟩
    let twice : Civil := ⟨1919, 2, 28, 23, 59, 0, 250000000⟩
    let never : Civil := ⟨1972, 1, 7, 0, 30, 0, 0⟩
    (zone.IsSpaced ∧ ∀ o ∈ zone.offsets, |o| < 2 ^ 31) ∧
      (LocalTime.readFormat? LocalTime.secondsAfterBlanks (trimChars " 1919-2-28 23:59:0.25".toList) =
          some twice ∧
        LocalTime.readFormat? LocalTime.minutesAfterT (trimChars "1972-01-07T00:30".toList) =
          some never) ∧
      (zone.clock (-1604359072) = twice.seconds ∧ zone.clock (-1604358990) = twice.seconds) ∧
      (∃ utc, IsLeast {u | zone.clock u = twice.seconds} utc ∧
        SpellsInstant utc twice.nanos "1919-03-01T00:42:08.250Z" ∧
          (⟨zone.clock utc, twice.nanos⟩ : Instant).civil = twice) ∧
      zone.IsGap never.seconds := by
  intro zone twice never
  have spaced : zone.IsSpaced := by decide
  have offsets : ∀ o ∈ zone.offsets, |o| < 2 ^ 31 := by decide
  have readsTwice : LocalTime.readFormat? LocalTime.secondsAfterBlanks
      (trimChars " 1919-2-28 23:59:0.25".toList) = some twice := by decide +kernel
  have readsNever : LocalTime.readFormat? LocalTime.minutesAfterT
      (trimChars "1972-01-07T00:30".toList) = some never := by decide +kernel
  obtain ⟨_, _, text⟩ := local_time_at_earliest_instant spaced offsets (by decide) readsTwice
    (by decide) (by decide) (by decide)
  obtain ⟨_, gap, _⟩ := local_time_at_earliest_instant spaced offsets (by decide) readsNever
    (by decide) (by decide) (by decide)
  exact ⟨⟨spaced, offsets⟩, ⟨readsTwice, readsNever⟩, by decide, (text _).mp (by decide +kernel),
    gap.mp (by decide +kernel)⟩

end Local

end TypedFilters
