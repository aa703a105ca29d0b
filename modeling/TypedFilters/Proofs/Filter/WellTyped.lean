import TypedFilters.Intake
import TypedFilters.Proofs.Time.UtcText

/-!
# Well-typed filters

A filter is well typed when it fits the table of its entity (`Filter.WellTyped`): the entity has the
field, the kind of the field permits the operator, there is a key exactly where the kind needs one and
a value exactly where the operator takes one, and the value has the format in which its kind is kept
(`ValueKind.Fits`). What the checks of a key, of a value and of its format leave is proved to be of this
form, and to be left alone when it is checked again.
-/

namespace TypedFilters

open Text

/-- A text has the format in which values of a kind are kept. -/
def ValueKind.Fits (kind : ValueKind) (choices : List String) (v : String) : Prop :=
  match kind with
  | .number => IsTrimmed v ∧
      ∃ literal x, Decimal.read? v.toList = some literal ∧ Binary64.ofDecimal? literal = some x
  | .dateTime => IsCanonicalUtc v
  | .enum => v ∈ choices
  | .string | .list | .dictionary => v ≠ ""

/-- A filter that fits the table of its entity. -/
structure Filter.WellTyped (f : Filter) : Prop where
  field_mem : f.field ∈ f.entity.fields
  operator_mem : f.operator ∈ f.field.kind.operators
  keyed : f.field.kind = .dictionary → ∃ key, f.key? = some key ∧ ¬ isBlank key
  unkeyed : f.field.kind ≠ .dictionary → f.key? = none
  value_eq_none_iff : f.value? = none ↔ f.operator.isNullary
  fits : ∀ v ∈ f.value?, f.field.kind.Fits f.field.choices v

theorem ValueKind.needsKey_iff (kind : ValueKind) : kind.needsKey ↔ kind = .dictionary := by
  cases kind <;> decide

/-! ## The format of values -/

theorem isFiniteNumber_iff (s : String) : isFiniteNumber s ↔
    ∃ literal x, Decimal.read? s.toList = some literal ∧ Binary64.ofDecimal? literal = some x := by
  simp only [isFiniteNumber, Option.isSome_iff_exists, Option.bind_eq_some_iff]
  exact ⟨fun ⟨x, literal, read, rounded⟩ => ⟨literal, x, read, rounded⟩,
    fun ⟨literal, x, read, rounded⟩ => ⟨x, literal, read, rounded⟩⟩

namespace ValueKind

variable {kind : ValueKind} {choices : List String}

/-- A text as a value of a kind: a date-time in UTC if it is one, and else the text. -/
def inUtc (kind : ValueKind) (zone : Zone) (s : String) : String :=
  if kind = .dateTime then (toUtcText? zone s).getD s else s

theorem decode_eq_map (encoding : Encoding) (zone : Zone) (kind : ValueKind) (raw : String) :
    encoding.decode zone kind raw = (encoding.text raw).map (kind.inUtc zone) :=
  rfl

/-- A free text is kept as it is if there is something in it. -/
theorem normalize_eq_ok_iff_of_isFreeText (free : kind.isFreeText) {s kept : String} :
    kind.normalize choices s = .ok kept ↔ s ≠ "" ∧ s = kept := by
  rw [normalize, if_pos free]
  by_cases empty : s = ""
  · rw [if_pos (String.isEmpty_iff.mpr empty)]
    exact iff_of_false nofun fun h => h.1 empty
  · rw [if_neg (mt String.isEmpty_iff.mp empty), Except.ok.injEq]
    exact ⟨fun eq => ⟨empty, eq⟩, fun h => h.2⟩

/-- Any other text is kept if there is something in it when it is trimmed, and the trimmed text passes
the check of its kind. -/
theorem normalize_eq_ok_iff_of_not_isFreeText (trimmed : ¬ kind.isFreeText) {s kept : String} :
    kind.normalize choices s = .ok kept ↔
      trim s ≠ "" ∧ kind.checkTrimmed choices (trim s) = .ok kept := by
  rw [normalize, if_neg trimmed]
  by_cases empty : trim s = ""
  · rw [if_pos (String.isEmpty_iff.mpr empty)]
    exact iff_of_false nofun fun h => h.1 empty
  · rw [if_neg (mt String.isEmpty_iff.mp empty)]
    exact ⟨fun eq => ⟨empty, eq⟩, fun h => h.2⟩

theorem checked_eq_ok_iff {passes : Prop} [Decidable passes] {t kept : String} {fault : ValueFault} :
    (if passes then .ok t else .error fault : Except ValueFault String) = .ok kept ↔
      passes ∧ t = kept := by
  split
  · next passed => simp only [Except.ok.injEq, passed, true_and]
  · next failed => exact iff_of_false nofun fun h => failed h.1

/-- A decoded value that is accepted is kept in the format of its kind. -/
theorem fits_of_normalize {zone : Zone} {s kept : String}
    (format : kind.normalize choices (kind.inUtc zone s) = .ok kept) : kind.Fits choices kept := by
  cases kind with
  | string | list | dictionary =>
    obtain ⟨some, rfl⟩ := (normalize_eq_ok_iff_of_isFreeText rfl).mp format
    exact some
  | number =>
    obtain ⟨_, check⟩ := (normalize_eq_ok_iff_of_not_isFreeText (by decide)).mp format
    rw [checkTrimmed, checked_eq_ok_iff] at check
    rcases check with ⟨finite, rfl⟩
    exact ⟨isTrimmed_trim _, (isFiniteNumber_iff _).mp finite⟩
  | dateTime =>
    obtain ⟨_, check⟩ := (normalize_eq_ok_iff_of_not_isFreeText (by decide)).mp format
    rw [checkTrimmed, checked_eq_ok_iff] at check
    rcases check with ⟨timestamp, rfl⟩
    exact isCanonicalUtc_trim_toUtcText? timestamp
  | enum =>
    obtain ⟨_, check⟩ := (normalize_eq_ok_iff_of_not_isFreeText (by decide)).mp format
    rw [checkTrimmed, checked_eq_ok_iff] at check
    rcases check with ⟨listed, rfl⟩
    exact List.contains_iff_mem.mp listed

/-- What is kept of a text is not blank, unless it is kept as it is and was blank. -/
theorem not_isBlank_of_normalize {zone : Zone} {s kept : String} (visible : ¬ isBlank s)
    (format : kind.normalize choices (kind.inUtc zone s) = .ok kept) : ¬ isBlank kept := by
  have trimmed : ∀ {t}, trim t ≠ "" → ¬ isBlank (trim t) := by
    intro t some
    rwa [← trim_eq_empty_iff, (isTrimmed_trim t).trim_eq]
  cases kind with
  | string | list | dictionary =>
    obtain ⟨_, rfl⟩ := (normalize_eq_ok_iff_of_isFreeText rfl).mp format
    exact visible
  | number | dateTime | enum =>
    obtain ⟨some, check⟩ := (normalize_eq_ok_iff_of_not_isFreeText (by decide)).mp format
    rw [checkTrimmed, checked_eq_ok_iff] at check
    rcases check with ⟨_, rfl⟩
    exact trimmed some

/-- What is kept in the format of its kind is kept again as it is, whatever the zone, if every choice is
a text without blanks around it. -/
theorem normalize_of_fits {v : String} (fits : kind.Fits choices v)
    (choices_trimmed : ∀ choice ∈ choices, trim choice = choice ∧ choice ≠ "") (zone : Zone) :
    kind.normalize choices (kind.inUtc zone v) = .ok v := by
  cases kind with
  | string | list | dictionary =>
    exact (normalize_eq_ok_iff_of_isFreeText rfl).mpr ⟨fits, rfl⟩
  | number =>
    rcases fits with ⟨trimmed, finite⟩
    have some : v ≠ "" := by
      intro empty
      rcases finite with ⟨literal, _, read, _⟩
      rw [empty] at read
      cases read
    rw [normalize_eq_ok_iff_of_not_isFreeText (by decide), inUtc, if_neg (by decide), trimmed.trim_eq,
      checkTrimmed, checked_eq_ok_iff]
    exact ⟨some, (isFiniteNumber_iff v).mpr finite, rfl⟩
  | dateTime =>
    have utc : inUtc .dateTime zone v = v := by
      rw [inUtc, if_pos rfl, toUtcText?_of_isCanonicalUtc fits zone, Option.getD_some]
    rw [normalize_eq_ok_iff_of_not_isFreeText (by decide), utc, fits.isTrimmed.trim_eq, checkTrimmed,
      checked_eq_ok_iff]
    exact ⟨fits.ne_empty, fits.isTimestamp, rfl⟩
  | enum =>
    obtain ⟨trimmed, some⟩ := choices_trimmed v fits
    rw [normalize_eq_ok_iff_of_not_isFreeText (by decide), inUtc, if_neg (by decide), trimmed,
      checkTrimmed, checked_eq_ok_iff]
    exact ⟨some, List.contains_iff_mem.mpr fits, rfl⟩

end ValueKind

end TypedFilters
