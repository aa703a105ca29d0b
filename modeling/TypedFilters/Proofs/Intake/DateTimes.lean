import TypedFilters.Proofs.Filter.Rebuilding
import TypedFilters.Proofs.Intake.Acceptance
import TypedFilters.Proofs.Time.Spelling

/-!
# Date-times as values

Decoding turns a date-time into its text in UTC and passes on any other text as it is; the check of the
format reads by a grammar of its own. Between the two only canonical texts are stored: what is stored is
the UTC text of the value (`normalize_inUtc_dateTime_iff`), and this is a fixed point of both. A value
without a UTC text is refused, and so is one whose UTC text has a year of other than four digits
(`dateTime_stored_in_utc`).
-/

namespace TypedFilters

open Text

/-! ## Texts in UTC that can be stored -/

/-- The text spells a time in UTC in one of the years 0 to 9999. -/
def SpellsFourDigitYear (s : String) : Prop :=
  ∃ u, SpellsUtc u s.toList ∧ 0 ≤ u.year ∧ u.year ≤ 9999

section UtcTexts

variable {zone : Zone} {v s : String}

theorem exists_of_toUtcText? (utc : toUtcText? zone v = some s) :
    ∃ i : Instant, i.nanos < 2000000000 ∧ s = i.utcText := by
  obtain ⟨i, spelled, rfl⟩ := Option.map_eq_some_iff.mp utc
  exact ⟨i, nanos_lt_of_instant? spelled, rfl⟩

/-- A text in UTC is canonical exactly if its year has four digits, and the check of the format sees
this. -/
theorem isTimestamp_iff_of_toUtcText? (utc : toUtcText? zone v = some s) :
    Rfc3339.isTimestamp s ↔ SpellsFourDigitYear s := by
  obtain ⟨i, nanos, rfl⟩ := exists_of_toUtcText? utc
  have spells := spellsUtc_civilText (Civil.isTime_civil nanos)
  rw [SpellsFourDigitYear, Instant.utcText, String.toList_ofList]
  constructor
  · intro timestamp
    exact ⟨i.civil, spells, year_of_isTimestamp_civilText timestamp⟩
  · rintro ⟨u, spelled, year_nonneg, year_le⟩
    obtain rfl := spelled.time_unique spells
    have inRange : Civil.yearInRange i.civil.year := by
      simp only [Civil.yearInRange, Bool.and_eq_true, decide_eq_true_eq]
      omega
    exact (isCanonicalUtc_civilText (Instant.isValid_civil nanos inRange) year_nonneg
      year_le).isTimestamp

theorem isCanonicalUtc_of_toUtcText? (utc : toUtcText? zone v = some s) (year : SpellsFourDigitYear s) :
    IsCanonicalUtc s := by
  have timestamp := (isTimestamp_iff_of_toUtcText? utc).mpr year
  obtain ⟨i, nanos, rfl⟩ := exists_of_toUtcText? utc
  exact isCanonicalUtc_utcText nanos timestamp

/-- A text that is read as a timestamp has a text in UTC. -/
theorem isSome_toUtcText?_of_isTimestamp (zone : Zone) (timestamp : Rfc3339.isTimestamp (trim v)) :
    (toUtcText? zone v).isSome := by
  rw [Rfc3339.isTimestamp, trim, String.toList_ofList, Option.isSome_iff_exists] at timestamp
  rcases timestamp with ⟨read, eq⟩
  rw [toUtcText?, Option.isSome_map, instant?, eq]
  rfl

/-- What is stored of a date-time is its text in UTC. -/
theorem ValueKind.normalize_inUtc_dateTime_iff {choices : List String} :
    dateTime.normalize choices (dateTime.inUtc zone v) = .ok s ↔
      toUtcText? zone v = some s ∧ SpellsFourDigitYear s := by
  rw [normalize_eq_ok_iff_of_not_isFreeText (by decide), checkTrimmed, checked_eq_ok_iff, inUtc,
    if_pos rfl]
  constructor
  · rintro ⟨_, timestamp, rfl⟩
    cases utc : toUtcText? zone v with
    | none =>
      rw [utc, Option.getD_none] at timestamp
      have some := isSome_toUtcText?_of_isTimestamp zone timestamp
      rw [utc] at some
      cases some
    | some t =>
      obtain ⟨i, _, rfl⟩ := exists_of_toUtcText? utc
      have trimmed : trim i.utcText = i.utcText := (isTrimmed_civilText i.civil).trim_eq
      rw [utc, Option.getD_some, trimmed] at timestamp
      rw [Option.getD_some, trimmed]
      exact ⟨rfl, (isTimestamp_iff_of_toUtcText? utc).mp timestamp⟩
  · rintro ⟨utc, year⟩
    have canonical := isCanonicalUtc_of_toUtcText? utc year
    rw [utc, Option.getD_some, canonical.isTrimmed.trim_eq]
    exact ⟨canonical.ne_empty, canonical.isTimestamp, rfl⟩

end UtcTexts

/-! ## Descriptors on a date-time -/

namespace Intake

section Single

variable {intake : Intake} {entity : Entity} {d : Descriptor}

theorem ofDescriptors_singleton_eq_ok_iff (room : 1 ≤ intake.limits.maxFilters) {filters : List Filter} :
    intake.ofDescriptors entity [d] = .ok filters ↔
      ∃ f, intake.resolve entity d = .ok f ∧ filters = [f] := by
  rw [ofDescriptors_singleton room, resolveAll]
  cases intake.resolve entity d with
  | error e => simp
  | ok f => simp [resolveAll, eq_comm]

theorem hasCode_ofDescriptors_singleton (room : 1 ≤ intake.limits.maxFilters) {e : FilterError}
    (refused : intake.resolve entity d = .error e) :
    HasCode e.code (intake.ofDescriptors entity [d]) := by
  rw [ofDescriptors_singleton room, resolveAll, refused]
  exact ⟨e.atIndex 0, rfl, rfl⟩

end Single

section DateTimes

variable {entity : Entity} {d : Descriptor} {op : Operator} {entry : Field} {v : String}

/-- A descriptor on a date-time gives a filter without a key. -/
theorem Valued.resolve_of_dateTime (valued : Valued entity d op entry.describe v)
    (dateTime : entry.kind = .dateTime) (zone : Zone) (limits : Limits) :
    (ofEncoding .plain zone limits).resolve entity d =
      (⟨entity, entry, op, none, some v⟩ : Filter).withValue (ValueKind.dateTime.inUtc zone v) := by
  have needless : ¬ entry.describe.needsKey := by
    rw [show entry.describe.needsKey = entry.kind.needsKey from rfl, dateTime]
    decide
  have key := nonBlank?_of_not_given (mt valued.key.mp needless)
  have decodes : (ofEncoding .plain zone limits).decode entry.kind v =
      .ok (ValueKind.dateTime.inUtc zone v) := by
    rw [dateTime]
    rfl
  simp only [resolve_of_selects valued.selects, valued.checkKey, valued.passes.present, key, decodes]

/-- A date-time in plain text is accepted exactly if it has a text in UTC in the years 0 to 9999. That
text is what is stored; it is its own text in UTC in every zone, and a filter that is given it keeps it.
-/
theorem dateTime_stored_in_utc (zone : Zone) (limits : Limits) (room : 1 ≤ limits.maxFilters)
    (valued : Valued entity d op entry.describe v) (dateTime : entry.kind = .dateTime) :
    (∀ filters, (ofEncoding .plain zone limits).ofDescriptors entity [d] = .ok filters ↔
      ∃ s, (toUtcText? zone v = some s ∧ SpellsFourDigitYear s) ∧
        filters = [⟨entity, entry, op, none, some s⟩]) ∧
    (∀ s, toUtcText? zone v = some s → SpellsFourDigitYear s →
      (∀ zone', toUtcText? zone' s = some s) ∧
      ∀ f : Filter, f.field = entry → f.operator = op →
        f.withValue s = .ok { f with value? := some s }) ∧
    ((∀ s, toUtcText? zone v = some s → ¬ SpellsFourDigitYear s) →
      HasCode "INVALID_VALUE_FORMAT" ((ofEncoding .plain zone limits).ofDescriptors entity [d])) := by
  have resolved := valued.resolve_of_dateTime dateTime zone limits
  refine ⟨fun filters => ?_, fun s utc year => ⟨fun zone' => ?_, ?_⟩, fun unstorable => ?_⟩
  · rw [ofDescriptors_singleton_eq_ok_iff room, resolved]
    constructor
    · rintro ⟨f, set, rfl⟩
      obtain ⟨s, format, rfl⟩ := (Filter.withValue_eq_ok_iff valued.needed).mp set
      rw [dateTime] at format
      exact ⟨s, ValueKind.normalize_inUtc_dateTime_iff.mp format, rfl⟩
    · rintro ⟨s, stored, rfl⟩
      refine ⟨_, (Filter.withValue_eq_ok_iff valued.needed).mpr ⟨s, ?_, rfl⟩, rfl⟩
      rw [dateTime]
      exact ValueKind.normalize_inUtc_dateTime_iff.mpr stored
  · exact toUtcText?_of_isCanonicalUtc (isCanonicalUtc_of_toUtcText? utc year) zone'
  · rintro f rfl rfl
    refine (Filter.withValue_eq_ok_iff valued.needed).mpr ⟨s, ?_, rfl⟩
    rw [dateTime]
    exact ValueKind.normalize_of_normalize (ValueKind.normalize_inUtc_dateTime_iff.mpr ⟨utc, year⟩)
  · cases format : ValueKind.dateTime.normalize entry.choices (ValueKind.dateTime.inUtc zone v) with
    | ok s =>
      obtain ⟨utc, year⟩ := ValueKind.normalize_inUtc_dateTime_iff.mp format
      exact absurd year (unstorable s utc)
    | error fault =>
      simp only [Filter.withValue, if_neg valued.needed, dateTime, format] at resolved
      exact hasCode_ofDescriptors_singleton room resolved

/-- A local time in summer is stored in UTC. An hour west of UTC the last half hour of the year 9999 is
in the year 10000, and is refused. -/
theorem dateTime_stored_in_utc_of_summer_time :
    let zone : Zone := ⟨"Europe/Berlin", 3600, [⟨1711846800, 7200⟩]⟩
    let intake := ofEncoding .plain zone ⟨1, 0⟩
    let entry : Field := ⟨"start_time", .dateTime, []⟩
    let summer : Descriptor := ⟨"start_time", "<", some " ", some " 2024-07-01 12:30:00\n"⟩
    let late : Descriptor := ⟨"start_time", "<", none, some "9999-12-31T23:30:00-01:00"⟩
    Valued .traces summer .less entry.describe " 2024-07-01 12:30:00\n" ∧
      Valued .traces late .less entry.describe "9999-12-31T23:30:00-01:00" ∧
      intake.ofDescriptors .traces [summer] =
        .ok [⟨.traces, entry, .less, none, some "2024-07-01T10:30:00Z"⟩] ∧
      toUtcText? ⟨"UTC", 0, []⟩ "2024-07-01T10:30:00Z" = some "2024-07-01T10:30:00Z" ∧
      HasCode "INVALID_VALUE_FORMAT" (intake.ofDescriptors .traces [late]) := by
  intro zone intake entry summer late
  have named : Operator.named? "<" = some .less := by decide +kernel
  have name : entry.name = trim "start_time" := by decide +kernel
  have keyed : ∀ key? value?, ¬ Given key? →
      Keyed .traces ⟨"start_time", "<", key?, value?⟩ .less entry.describe :=
    fun _ _ absent => ⟨⟨⟨Operator.named?_eq_some_iff.mp named, by decide, name⟩, by decide⟩,
      iff_of_false absent nofun⟩
  have blank : ¬ Given (some " ") := by
    rintro ⟨_, ⟨rfl⟩, visible⟩
    exact visible rfl
  have absent : ¬ Given none := by
    rintro ⟨_, none, _⟩
    cases none
  have summerValued : Valued .traces summer .less entry.describe " 2024-07-01 12:30:00\n" :=
    ⟨keyed _ _ blank, by decide, rfl, by decide⟩
  have lateValued : Valued .traces late .less entry.describe "9999-12-31T23:30:00-01:00" :=
    ⟨keyed _ _ absent, by decide, rfl, by decide⟩
  have summerUtc : toUtcText? zone " 2024-07-01 12:30:00\n" = some "2024-07-01T10:30:00Z" := by
    decide +kernel
  have lateUtc : toUtcText? zone "9999-12-31T23:30:00-01:00" = some "+10000-01-01T00:30:00Z" := by
    decide +kernel
  have year : SpellsFourDigitYear "2024-07-01T10:30:00Z" :=
    (isTimestamp_iff_of_toUtcText? summerUtc).mp (by decide +kernel)
  obtain ⟨accepted, fixed, _⟩ := dateTime_stored_in_utc zone ⟨1, 0⟩ (Nat.le_refl 1) summerValued rfl
  obtain ⟨_, _, refused⟩ := dateTime_stored_in_utc zone ⟨1, 0⟩ (Nat.le_refl 1) lateValued rfl
  refine ⟨summerValued, lateValued, (accepted _).mpr ⟨_, ⟨summerUtc, year⟩, rfl⟩,
    (fixed _ summerUtc year).1 _, refused fun s utc spells => ?_⟩
  obtain rfl := Option.some.inj (lateUtc.symm.trans utc)
  exact absurd ((isTimestamp_iff_of_toUtcText? lateUtc).mpr spells) (by decide +kernel)

end DateTimes

end Intake

end TypedFilters
