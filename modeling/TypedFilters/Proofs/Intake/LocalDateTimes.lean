import TypedFilters.Proofs.Intake.DateTimes
import TypedFilters.Proofs.Time.LocalForms

/-!
# Local date-times as values

A text that is no timestamp has a text in UTC exactly if one of the formats reads it as a civil time that
exists in the zone; any other text is refused as a date-time (`local_value_iff`). The usual forms are not
all that is accepted so: a short year is read as that year (`short_year_in_utc`).
-/

namespace TypedFilters

open Text LocalTime

section Values

variable {zone : Zone} {s : String}

/-- Without a text in UTC a value is no date-time. -/
theorem normalize_inUtc_of_eq_none (none : toUtcText? zone s = none) (choices : List String) :
    ∃ fault, ValueKind.dateTime.normalize choices (ValueKind.dateTime.inUtc zone s) = .error fault := by
  cases format : ValueKind.dateTime.normalize choices (ValueKind.dateTime.inUtc zone s) with
  | error fault => exact ⟨fault, rfl⟩
  | ok t =>
    obtain ⟨utc, _⟩ := ValueKind.normalize_inUtc_dateTime_iff.mp format
    rw [none] at utc
    cases utc

/-- A text that is no timestamp is cut into pieces by a format, or refused. The civil time that the pieces
spell has to exist, also on the clocks of the zone, and the text has a usual form exactly if every piece has
the full width of its part. -/
theorem local_value_iff (noTimestamp : Rfc3339.isTimestamp (trim s) = false) (choices : List String) :
    (∀ t, toUtcText? zone s = some t ↔
      ∃ parts ∈ formats, ∃ pieces c i, Cuts parts Civil.start c pieces ∧
        pieces.flatten = trimChars s.toList ∧ c.isValid ∧ zone.instant? c = some i ∧ i.utcText = t) ∧
    (∀ parts ∈ formats, ∀ pieces c, Cuts parts Civil.start c pieces → pieces.flatten = trimChars s.toList →
      ((∃ d, LocalTime.Spells d (trimChars s.toList)) ↔ List.Forall₂ Part.IsFull parts pieces)) ∧
    (toUtcText? zone s = none →
      ∃ fault, ValueKind.dateTime.normalize choices (ValueKind.dateTime.inUtc zone s) = .error fault) := by
  have unread : Rfc3339.read? (trimChars s.toList) = none := by
    rwa [Rfc3339.isTimestamp, trim, String.toList_ofList, Option.isSome_eq_false_iff,
      Option.isNone_iff_eq_none] at noTimestamp
  refine ⟨fun t => ?_, fun parts known pieces c cuts same => ?_, fun none => ?_⟩
  · simp only [toUtcText?, instant?, unread, Option.map_eq_some_iff, Option.bind_eq_some_iff,
      LocalTime.read?_eq_some_iff]
    constructor
    · rintro ⟨i, ⟨c, ⟨parts, known, pieces, cuts, same, valid⟩, found⟩, written⟩
      exact ⟨parts, known, pieces, c, i, cuts, same, valid, found, written⟩
    · rintro ⟨parts, known, pieces, c, i, cuts, same, valid, found, written⟩
      exact ⟨i, ⟨c, ⟨parts, known, pieces, cuts, same, valid⟩, found⟩, written⟩
  · rw [← same]
    exact spells_iff_forall_isFull known cuts
  · exact normalize_inUtc_of_eq_none none choices

/-- Single digits are accepted, though they are no usual form; words are not. -/
theorem local_value_iff_of_single_digits :
    let utc : Zone := ⟨"UTC", 0, []⟩
    Rfc3339.isTimestamp (trim "2024-1-5") = false ∧ Rfc3339.isTimestamp (trim "5 May") = false ∧
      toUtcText? utc "2024-1-5" = some "2024-01-05T00:00:00Z" ∧
      (∀ pieces c, Cuts dateParts Civil.start c pieces → pieces.flatten = trimChars "2024-1-5".toList →
        ¬ List.Forall₂ Part.IsFull dateParts pieces) ∧
      ∃ fault, ValueKind.dateTime.normalize [] (ValueKind.dateTime.inUtc utc "5 May") = .error fault := by
  intro utc
  have digits : Rfc3339.isTimestamp (trim "2024-1-5") = false := by decide +kernel
  have words : Rfc3339.isTimestamp (trim "5 May") = false := by decide +kernel
  obtain ⟨accepted, usual, _⟩ := @local_value_iff utc _ digits []
  obtain ⟨_, _, refused⟩ := @local_value_iff utc _ words []
  have read : readParts? dateParts Civil.start (trimChars "2024-1-5".toList) =
      some ⟨2024, 1, 5, 0, 0, 0, 0⟩ := by decide +kernel
  obtain ⟨pieces, cuts, same⟩ := readParts?_eq_some_iff.mp read
  refine ⟨digits, words, (accepted _).mpr ⟨dateParts, by decide, pieces, _, ⟨1704412800, 0⟩, cuts, same,
    by decide, by decide +kernel, by decide +kernel⟩, fun pieces c cuts same full => ?_,
    refused (by decide +kernel)⟩
  obtain ⟨_, spells⟩ := (usual dateParts (by decide) pieces c cuts same).mpr full
  have length := ten_le_length_of_spells spells
  exact absurd length (by decide +kernel)

/-- A year of two digits is read as a year of the first century. -/
theorem short_year_in_utc :
    Rfc3339.isTimestamp (trim "24-1-5") = false ∧
      toUtcText? ⟨"UTC", 0, []⟩ "24-1-5" = some "0024-01-05T00:00:00Z" ∧
      ∀ d, ¬ LocalTime.Spells d (trimChars "24-1-5".toList) := by
  refine ⟨by decide +kernel, by decide +kernel, fun d spells => ?_⟩
  have length := ten_le_length_of_spells spells
  exact absurd length (by decide +kernel)

end Values

end TypedFilters
