import TypedFilters.Proofs.Catalogue
import TypedFilters.Proofs.Filter.WellTyped
import TypedFilters.Proofs.Intake.Batch

/-!
# The catalogue decides what is accepted

A client that reads the published catalogue can tell of every descriptor whether it is accepted. The
conditions are asked in a fixed order, each on top of those before it (`Names`, `Lists`, `Keyed`,
`Valued`, `Decoded`). `Admitted` says that all of them are met, and `FirstUnmet` which code belongs to
the first one that is not. Both speak of the entries of the catalogue and not of the checks, and one of
the two always holds (`admitted_or_firstUnmet`). The checks agree with them: an admitted descriptor gives
a filter (`exists_of_admitted`), and any other is refused with its code (`exists_of_firstUnmet`).
-/

namespace TypedFilters

open Text

/-! ## The rule of a kind -/

/-- A decoded text satisfies the rule of a kind. -/
def ValueKind.Admits (kind : ValueKind) (choices : List String) (s : String) : Prop :=
  match kind with
  | .number => ∃ literal x, Decimal.read? (trim s).toList = some literal ∧
      Binary64.ofDecimal? literal = some x
  | .dateTime => Rfc3339.isTimestamp (trim s)
  | .enum => trim s ∈ choices
  | .string | .list | .dictionary => s ≠ ""

namespace ValueKind

variable {kind : ValueKind} {choices : List String} {s : String}

theorem exists_normalize_iff_of_isFreeText (free : kind.isFreeText) :
    (∃ kept, kind.normalize choices s = .ok kept) ↔ s ≠ "" := by
  simp only [normalize_eq_ok_iff_of_isFreeText free, exists_and_left, exists_eq', and_true]

/-- A value that is kept trimmed is accepted exactly if the trimmed text passes the check of its kind, as
long as the empty text does not pass. -/
theorem exists_normalize_iff_of_check {P : String → Prop} (trimmed : ¬ kind.isFreeText)
    (check : ∀ t, (∃ kept, kind.checkTrimmed choices t = .ok kept) ↔ P t) (visible : ¬ P "") :
    (∃ kept, kind.normalize choices s = .ok kept) ↔ P (trim s) := by
  simp only [normalize_eq_ok_iff_of_not_isFreeText trimmed, exists_and_left, check]
  constructor
  · intro accepted
    exact accepted.2
  · intro passed
    refine ⟨?_, passed⟩
    intro empty
    rw [empty] at passed
    exact visible passed

theorem exists_checked_iff {P : Prop} [Decidable P] {t : String} {fault : ValueFault} :
    (∃ kept, (if P then .ok t else .error fault : Except ValueFault String) = .ok kept) ↔ P := by
  simp only [checked_eq_ok_iff, exists_and_left, exists_eq', and_true]

/-- The check of the format accepts what satisfies the rule of the kind, if no choice is empty. -/
theorem exists_normalize_iff (visible : "" ∉ choices) :
    (∃ kept, kind.normalize choices s = .ok kept) ↔ kind.Admits choices s := by
  cases kind with
  | string | list | dictionary => exact exists_normalize_iff_of_isFreeText rfl
  | number =>
    have check : ∀ t, (∃ kept, checkTrimmed number choices t = .ok kept) ↔ isFiniteNumber t :=
      fun _ => exists_checked_iff
    rw [Admits, ← isFiniteNumber_iff]
    exact exists_normalize_iff_of_check (by decide) check (by decide)
  | dateTime =>
    have check : ∀ t, (∃ kept, checkTrimmed dateTime choices t = .ok kept) ↔ Rfc3339.isTimestamp t :=
      fun _ => exists_checked_iff
    exact exists_normalize_iff_of_check (by decide) check (by decide)
  | enum =>
    have check : ∀ t, (∃ kept, checkTrimmed enum choices t = .ok kept) ↔ t ∈ choices :=
      fun _ => exists_checked_iff.trans List.contains_iff_mem
    exact exists_normalize_iff_of_check (by decide) check visible

end ValueKind

namespace Intake

/-! ## The conditions in their order -/

/-- A key or value counts as given when it is there and not blank. -/
def Given (s? : Option String) : Prop :=
  ∃ s, s? = some s ∧ ¬ isBlank s

section Conditions

variable (encoding : Encoding) (zone : Zone) (entity : Entity) (d : Descriptor)

/-- The texts of the descriptor are names of an operator and of an entry of the catalogue. -/
structure Names (op : Operator) (entry : FieldInfo) : Prop where
  operator : op.IsNamed d.operator
  published : entry ∈ entity.published
  field : entry.name = trim d.field

/-- The entry also lists the operator. -/
structure Lists (op : Operator) (entry : FieldInfo) : Prop extends Names entity d op entry where
  listed : op ∈ entry.operators

/-- A key is also given exactly when the entry needs one. -/
structure Keyed (op : Operator) (entry : FieldInfo) : Prop extends Lists entity d op entry where
  key : Given d.key? ↔ entry.needsKey

/-- The operator also takes a value, and this one is given. -/
structure Valued (op : Operator) (entry : FieldInfo) (raw : String) : Prop
    extends Keyed entity d op entry where
  needed : ¬ op.isNullary
  given : d.value? = some raw
  visible : ¬ isBlank raw

/-- The value is also decoded. -/
structure Decoded (op : Operator) (entry : FieldInfo) (raw decoded : String) : Prop
    extends Valued entity d op entry raw where
  decodes : encoding.decode zone entry.kind raw = .ok decoded

/-- All conditions are met: there is no use for a value, or its decoded text satisfies the rule of the
kind of the entry. -/
inductive Admitted : Prop
  | nullary {op entry} (keyed : Keyed entity d op entry) (nullary : op.isNullary)
  | value {op entry raw text} (decoded : Decoded encoding zone entity d op entry raw text)
      (admits : entry.kind.Admits entry.choices text)

/-- The code that belongs to the first condition that is not met. -/
inductive FirstUnmet : String → Prop
  | operator (unnamed : ∀ op : Operator, ¬ op.IsNamed d.operator) : FirstUnmet "UNKNOWN_OPERATOR"
  | field {op : Operator} (named : op.IsNamed d.operator)
      (unpublished : ∀ entry ∈ entity.published, entry.name ≠ trim d.field) :
      FirstUnmet "UNKNOWN_FIELD"
  | support {op entry} (names : Names entity d op entry) (unlisted : op ∉ entry.operators) :
      FirstUnmet "UNSUPPORTED_OPERATOR"
  | missingKey {op entry} (lists : Lists entity d op entry) (needed : entry.needsKey)
      (absent : ¬ Given d.key?) : FirstUnmet "MISSING_KEY"
  | unexpectedKey {op entry} (lists : Lists entity d op entry) (needless : ¬ entry.needsKey)
      (given : Given d.key?) : FirstUnmet "UNEXPECTED_KEY"
  | value {op entry} (keyed : Keyed entity d op entry) (needed : ¬ op.isNullary)
      (absent : ¬ Given d.value?) : FirstUnmet "MISSING_VALUE"
  | decoding {op entry raw} (valued : Valued entity d op entry raw)
      (undecodable : ∀ text, encoding.decode zone entry.kind raw ≠ .ok text) :
      FirstUnmet "DECODE_FAILURE"
  | format {op entry raw text} (decoded : Decoded encoding zone entity d op entry raw text)
      (misfit : ¬ entry.kind.Admits entry.choices text) : FirstUnmet "INVALID_VALUE_FORMAT"

/-- The conditions leave no gap. -/
theorem admitted_or_firstUnmet :
    Admitted encoding zone entity d ∨ ∃ code, FirstUnmet encoding zone entity d code := by
  by_cases named : ∃ op : Operator, op.IsNamed d.operator
  swap
  · exact .inr ⟨_, .operator fun op is => named ⟨op, is⟩⟩
  rcases named with ⟨op, named⟩
  by_cases published : ∃ entry ∈ entity.published, entry.name = trim d.field
  swap
  · exact .inr ⟨_, .field named fun entry mem name => published ⟨entry, mem, name⟩⟩
  rcases published with ⟨entry, published, name⟩
  have names : Names entity d op entry := ⟨named, published, name⟩
  by_cases listed : op ∈ entry.operators
  swap
  · exact .inr ⟨_, .support names listed⟩
  have lists : Lists entity d op entry := ⟨names, listed⟩
  by_cases key : Given d.key? ↔ entry.needsKey
  swap
  · by_cases needed : entry.needsKey
    · exact .inr ⟨_, .missingKey lists needed fun given => key (iff_of_true given needed)⟩
    · have given : Given d.key? := by_contra fun absent => key (iff_of_false absent needed)
      exact .inr ⟨_, .unexpectedKey lists needed given⟩
  have keyed : Keyed entity d op entry := ⟨lists, key⟩
  by_cases nullary : op.isNullary
  · exact .inl (.nullary keyed nullary)
  by_cases given : Given d.value?
  swap
  · exact .inr ⟨_, .value keyed nullary given⟩
  rcases given with ⟨raw, given, visible⟩
  have valued : Valued entity d op entry raw := ⟨keyed, nullary, given, visible⟩
  cases decodes : encoding.decode zone entry.kind raw with
  | error fault => exact .inr ⟨_, .decoding valued fun text ok => nomatch decodes.symm.trans ok⟩
  | ok text =>
    have decoded : Decoded encoding zone entity d op entry raw text := ⟨valued, decodes⟩
    by_cases admits : entry.kind.Admits entry.choices text
    · exact .inl (.value decoded admits)
    · exact .inr ⟨_, .format decoded admits⟩

end Conditions

/-! ## The checks agree with the conditions -/

section Checks

variable {encoding : Encoding} {zone : Zone} {limits : Limits} {entity : Entity} {d : Descriptor}
  {op : Operator} {entry : FieldInfo} {field : Field} {raw text : String}

theorem given_iff {s? : Option String} : Given s? ↔ ∃ s, nonBlank? s? = some s := by
  simp only [Given, nonBlank?_eq_some_iff]

theorem nonBlank?_of_not_given {s? : Option String} (absent : ¬ Given s?) : nonBlank? s? = none := by
  rw [given_iff, not_exists] at absent
  exact Option.eq_none_iff_forall_ne_some.mpr absent

/-- An entry of the catalogue describes a field of the entity. -/
theorem Names.exists_field (names : Names entity d op entry) :
    ∃ field ∈ entity.fields, field.describe = entry :=
  List.mem_map.mp names.published

/-- The field that an entry describes is the one that is looked up. -/
theorem Names.found (names : Names entity d op field.describe) : entity.field? d.field = some field :=
  Entity.field?_eq_some_iff.mpr ⟨Entity.describe_mem_published.mp names.published, names.field⟩

theorem Lists.selects (lists : Lists entity d op field.describe) : Selects entity d op field :=
  ⟨Operator.named?_eq_some_iff.mpr lists.operator, lists.found,
    List.contains_iff_mem.mpr lists.listed⟩

/-- The key that the check leaves. -/
theorem Keyed.checkKey (keyed : Keyed entity d op field.describe) :
    Filter.checkKey field.kind d.key? = .ok (nonBlank? d.key?) := by
  have key := keyed.key
  rw [given_iff, ← Option.isSome_iff_exists, Bool.coe_iff_coe] at key
  exact checkKey_eq_ok_iff.mpr ⟨rfl, key⟩

theorem Valued.passes (valued : Valued entity d op field.describe raw) :
    Passes entity d op field (nonBlank? d.key?) (some raw) :=
  ⟨valued.selects, valued.checkKey,
    checkPresence_eq_ok_some_iff.mpr ⟨valued.needed, valued.given, valued.visible⟩⟩

theorem Names.exists_normalize_iff (names : Names entity d op field.describe) {s : String} :
    (∃ kept, field.kind.normalize field.choices s = .ok kept) ↔
      field.kind.Admits field.choices s := by
  apply ValueKind.exists_normalize_iff
  intro empty
  exact (Entity.trim_choice (Entity.describe_mem_published.mp names.published) "" empty).2 rfl

/-- A descriptor that meets all conditions gives a filter. -/
theorem exists_of_admitted (admitted : Admitted encoding zone entity d) :
    ∃ f, (ofEncoding encoding zone limits).resolve entity d = .ok f := by
  rcases admitted with ⟨keyed, nullary⟩ | ⟨decoded, admits⟩
  · obtain ⟨field, _, rfl⟩ := keyed.exists_field
    have passes : Passes entity d _ field (nonBlank? d.key?) none :=
      ⟨keyed.selects, keyed.checkKey, checkPresence_eq_ok_none_iff.mpr nullary⟩
    exact ⟨_, resolve_of_passes_none passes⟩
  · obtain ⟨field, _, rfl⟩ := decoded.exists_field
    obtain ⟨kept, format⟩ := decoded.exists_normalize_iff.mpr admits
    exact ⟨_, resolve_of_passes_some decoded.passes decoded.decodes format⟩

/-- A descriptor is refused with the code of the first condition that it does not meet. -/
theorem exists_of_firstUnmet {code : String} (unmet : FirstUnmet encoding zone entity d code) :
    ∃ e, (ofEncoding encoding zone limits).resolve entity d = .error e ∧ e.code = code := by
  cases unmet with
  | operator unnamed =>
    have unknown : Operator.named? d.operator = none := by
      rw [Option.eq_none_iff_forall_ne_some]
      exact fun op found => unnamed op (Operator.named?_eq_some_iff.mp found)
    exact ⟨_, resolve_of_unknownOperator unknown, rfl⟩
  | field named unpublished =>
    have unknown : entity.field? d.field = none := by
      rw [Option.eq_none_iff_forall_ne_some]
      intro field found
      obtain ⟨mem, name⟩ := Entity.field?_eq_some_iff.mp found
      exact unpublished field.describe (Entity.describe_mem_published.mpr mem) name
    exact ⟨_, resolve_of_unknownField (Operator.named?_eq_some_iff.mpr named) unknown, rfl⟩
  | support names unlisted =>
    obtain ⟨field, _, rfl⟩ := names.exists_field
    have unsupported := mt List.contains_iff_mem.mp unlisted
    exact ⟨_, resolve_of_unsupported (Operator.named?_eq_some_iff.mpr names.operator) names.found
      unsupported, rfl⟩
  | missingKey lists needed absent =>
    obtain ⟨field, _, rfl⟩ := lists.exists_field
    have key : Filter.checkKey field.kind d.key? = .error .missingKey := by
      rw [Filter.checkKey, show field.kind.needsKey = true from needed, nonBlank?_of_not_given absent]
    exact ⟨_, by rw [resolve_of_selects lists.selects, key], rfl⟩
  | unexpectedKey lists needless given =>
    obtain ⟨field, _, rfl⟩ := lists.exists_field
    obtain ⟨_, kept⟩ := given_iff.mp given
    have key : Filter.checkKey field.kind d.key? = .error (.unexpectedKey field.kind) := by
      rw [Filter.checkKey, show field.kind.needsKey = false from Bool.eq_false_iff.mpr needless, kept]
    exact ⟨_, by rw [resolve_of_selects lists.selects, key], rfl⟩
  | @value op _ keyed needed absent =>
    obtain ⟨field, _, rfl⟩ := keyed.exists_field
    have missing : Filter.checkPresence op d.value? = .error (.missingValue op) := by
      rw [Filter.checkPresence, if_neg needed, nonBlank?_of_not_given absent]
    exact ⟨_, by rw [resolve_of_selects keyed.selects, keyed.checkKey, missing], rfl⟩
  | @decoding _ _ raw valued undecodable =>
    obtain ⟨field, _, rfl⟩ := valued.exists_field
    cases decodes : encoding.decode zone field.kind raw with
    | ok text => exact absurd decodes (undecodable text)
    | error fault =>
      have refused : (ofEncoding encoding zone limits).resolve entity d =
          .error (.onField field.name (.undecodable fault)) := by
        rw [resolve_of_selects valued.selects, valued.checkKey, valued.passes.present]
        simp only [ofEncoding, decodes]
      exact ⟨_, refused, rfl⟩
  | @format _ _ raw text decoded misfit =>
    obtain ⟨field, _, rfl⟩ := decoded.exists_field
    cases format : field.kind.normalize field.choices text with
    | ok kept => exact absurd (decoded.exists_normalize_iff.mp ⟨kept, format⟩) misfit
    | error fault =>
      have decodes : encoding.decode zone field.kind raw = .ok text := decoded.decodes
      have refused : (ofEncoding encoding zone limits).resolve entity d =
          .error (.onField field.name (.invalidValue field.kind fault)) := by
        rw [resolve_of_selects decoded.selects, decoded.checkKey, decoded.passes.present]
        simp only [ofEncoding, decodes, Filter.withValue, if_neg decoded.needed, format]
      exact ⟨_, refused, rfl⟩

/-- Within the limit, a single descriptor is taken in exactly as it is resolved. -/
theorem ofDescriptors_singleton {intake : Intake} (room : 1 ≤ intake.limits.maxFilters) :
    intake.ofDescriptors entity [d] = resolveAll (intake.resolve entity) 0 [d] := by
  have few : ¬ intake.limits.maxFilters < [d].length := Nat.not_lt.mpr room
  rw [ofDescriptors_eq_bind, checkCount, if_neg few, Except.bind]

end Checks

/-- A descriptor is accepted exactly if the catalogue admits it, and is refused with a code exactly if
this is the code of the first condition that it does not meet, whatever else is wrong with it. -/
theorem catalogue_decides (encoding : Encoding) (zone : Zone) (limits : Limits) (entity : Entity)
    (d : Descriptor) (room : 1 ≤ limits.maxFilters) :
    ((∃ filters, (ofEncoding encoding zone limits).ofDescriptors entity [d] = .ok filters) ↔
      Admitted encoding zone entity d) ∧
    ∀ code, HasCode code ((ofEncoding encoding zone limits).ofDescriptors entity [d]) ↔
      FirstUnmet encoding zone entity d code := by
  have single : (ofEncoding encoding zone limits).ofDescriptors entity [d] = _ :=
    ofDescriptors_singleton room
  rcases admitted_or_firstUnmet encoding zone entity d with admitted | ⟨code, unmet⟩
  · obtain ⟨f, resolved⟩ := @exists_of_admitted encoding zone limits entity d admitted
    have accepted : (ofEncoding encoding zone limits).ofDescriptors entity [d] = .ok [f] := by
      rw [single, resolveAll, resolved]
      rfl
    refine ⟨iff_of_true ⟨_, accepted⟩ admitted, fun code => iff_of_false ?_ ?_⟩
    · rintro ⟨e, refused, _⟩
      cases accepted.symm.trans refused
    · intro unmet
      obtain ⟨e, refused, _⟩ := @exists_of_firstUnmet encoding zone limits entity d code unmet
      cases resolved.symm.trans refused
  · obtain ⟨e, alone, rfl⟩ := @exists_of_firstUnmet encoding zone limits entity d code unmet
    have refused : (ofEncoding encoding zone limits).ofDescriptors entity [d] =
        .error (e.atIndex 0) := by
      rw [single, resolveAll, alone]
    refine ⟨iff_of_false ?_ ?_, fun code => ⟨?_, ?_⟩⟩
    · rintro ⟨filters, accepted⟩
      cases accepted.symm.trans refused
    · intro admitted
      obtain ⟨f, resolved⟩ := @exists_of_admitted encoding zone limits entity d admitted
      cases resolved.symm.trans alone
    · rintro ⟨e', refused', rfl⟩
      cases refused.symm.trans refused'
      exact unmet
    · intro unmet'
      obtain ⟨e', alone', rfl⟩ := @exists_of_firstUnmet encoding zone limits entity d code unmet'
      cases alone.symm.trans alone'
      exact ⟨e.atIndex 0, refused, rfl⟩

/-- A dictionary is compared with a number in Base64. With a blank key the key is missing, though there is
no value either. -/
theorem catalogue_decides_of_metadata :
    let intake := ofEncoding .base64 ⟨"UTC", 0, []⟩ ⟨1, 0⟩
    1 ≤ (⟨1, 0⟩ : Limits).maxFilters ∧
      (∃ filters, intake.ofDescriptors .traces
        [⟨" metadata\n", "Greater_Than", some "cost", some "NQ"⟩] = .ok filters) ∧
      HasCode "MISSING_KEY" (intake.ofDescriptors .traces [⟨"metadata", ">", some " ", none⟩]) := by
  intro intake
  let entry : FieldInfo := Field.describe ⟨"metadata", .dictionary, []⟩
  have keyed : Keyed .traces ⟨" metadata\n", "Greater_Than", some "cost", some "NQ"⟩ .greater entry :=
    ⟨⟨⟨.inr (by decide +kernel), by decide, by decide +kernel⟩, by decide⟩,
      iff_of_true ⟨"cost", rfl, by decide⟩ rfl⟩
  have decoded : Decoded .base64 ⟨"UTC", 0, []⟩ .traces
      ⟨" metadata\n", "Greater_Than", some "cost", some "NQ"⟩ .greater entry "NQ" "5" :=
    ⟨⟨keyed, by decide, rfl, by decide⟩, by decide +kernel⟩
  have fits : entry.kind.Admits entry.choices "5" := show "5" ≠ "" by decide
  have lists : Lists .traces ⟨"metadata", ">", some " ", none⟩ .greater entry :=
    ⟨⟨.inl (by decide +kernel), by decide, by decide +kernel⟩, by decide⟩
  have absent : ¬ Given (some " ") := by
    rintro ⟨_, ⟨rfl⟩, visible⟩
    exact visible rfl
  exact ⟨by decide,
    (catalogue_decides .base64 ⟨"UTC", 0, []⟩ ⟨1, 0⟩ .traces _ (by decide)).1.mpr (.value decoded fits),
    ((catalogue_decides .base64 ⟨"UTC", 0, []⟩ ⟨1, 0⟩ .traces _ (by decide)).2 _).mpr
      (.missingKey lists rfl absent)⟩

end Intake

end TypedFilters
