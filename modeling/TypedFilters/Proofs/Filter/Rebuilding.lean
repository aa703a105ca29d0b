import TypedFilters.Proofs.Catalogue
import TypedFilters.Proofs.Filter.WellTyped
import TypedFilters.Proofs.Intake.Resolve

/-!
# Filters whose value is set again and again

A filter that passed the checks of its parts (`Filter.Checked`) can be given a value any number of
times. Each time it stays checked and differs from the filter that it came from in its value at most
(`Filter.IsVersion`), and so after any run of texts, refused ones among them (`isVersion_run`). All
versions of a filter answer alike to the next text (`IsVersion.withValue_eq`), so what was set before
leaves no trace (`withValue_after_any_history`). What a kind keeps of a text, it keeps as it is
(`normalize_of_normalize`).
-/

namespace TypedFilters

open Text

/-! ## The format keeps what it has kept -/

namespace ValueKind

variable {kind : ValueKind} {choices : List String} {s kept : String}

theorem eq_of_checkTrimmed (check : kind.checkTrimmed choices s = .ok kept) : s = kept := by
  cases kind with
  | string | list | dictionary => exact Except.ok.inj check
  | number | dateTime | enum => exact (checked_eq_ok_iff.mp check).2

theorem normalize_of_normalize (format : kind.normalize choices s = .ok kept) :
    kind.normalize choices kept = .ok kept := by
  by_cases free : kind.isFreeText
  · obtain ⟨_, rfl⟩ := (normalize_eq_ok_iff_of_isFreeText free).mp format
    exact format
  · rw [normalize_eq_ok_iff_of_not_isFreeText free] at format ⊢
    rcases format with ⟨some, check⟩
    obtain rfl := eq_of_checkTrimmed check
    rw [(isTrimmed_trim s).trim_eq]
    exact ⟨some, check⟩

end ValueKind

namespace Filter

/-! ## Checked filters -/

/-- The entity has the field, the operator is permitted there, and there is a key exactly on a
dictionary and a value exactly if the operator takes one. -/
structure Checked (f : Filter) : Prop where
  field_mem : f.field ∈ f.entity.fields
  operator_mem : f.operator ∈ f.field.operators
  keyed_iff : f.key?.isSome ↔ f.field.kind = .dictionary
  value_eq_none_iff : f.value? = none ↔ f.operator.isNullary

/-- The filter is checked and differs from the other one in its value at most. -/
structure IsVersion (origin f : Filter) : Prop extends f.Checked where
  entity_eq : f.entity = origin.entity
  field_eq : f.field = origin.field
  operator_eq : f.operator = origin.operator
  key_eq : f.key? = origin.key?

section Construction

variable {entity : Entity} {name : String} {field : Field} {op : Operator} {key? value? : Option String}
  {f : Filter}

theorem ofField_eq_ok_iff :
    ofField entity field op key? value? = .ok f ↔ field.supports op ∧ ∃ key value,
      checkKey field.kind key? = .ok key ∧ checkPresence op value? = .ok value ∧
        f = ⟨entity, field, op, key, value⟩ := by
  unfold ofField
  by_cases supported : field.supports op
  swap
  · rw [if_pos (by rwa [Bool.not_eq_true', ← Bool.not_eq_true])]
    exact iff_of_false nofun fun parts => supported parts.1
  rw [if_neg (by rw [supported]; decide)]
  cases checkKey field.kind key? with
  | error fault => simp
  | ok key =>
    cases checkPresence op value? with
    | error fault => simp
    | ok value => simp [supported, eq_comm]

theorem ofName_eq_ok_iff :
    ofName entity name op key? value? = .ok f ↔
      ∃ field, entity.field? name = some field ∧ ofField entity field op key? value? = .ok f := by
  unfold ofName
  cases entity.field? name with
  | none => simp
  | some field => simp

/-- A filter that is made is checked, and is one on what was named. -/
theorem checked_of_ofName (made : ofName entity name op key? value? = .ok f) :
    f.Checked ∧ f.entity = entity ∧ entity.field? name = some f.field ∧ f.operator = op := by
  obtain ⟨field, found, made⟩ := ofName_eq_ok_iff.mp made
  obtain ⟨supported, key, value, keyed, present, rfl⟩ := ofField_eq_ok_iff.mp made
  refine ⟨⟨(Entity.field?_eq_some_iff.mp found).1, List.contains_iff_mem.mp supported, ?_, ?_⟩, rfl,
    found, rfl⟩
  · rw [(Intake.checkKey_eq_ok_iff.mp keyed).2]
    exact field.kind.needsKey_iff
  · cases value with
    | none => exact iff_of_true rfl (Intake.checkPresence_eq_ok_none_iff.mp present)
    | some raw => exact iff_of_false nofun (Intake.checkPresence_eq_ok_some_iff.mp present).1

theorem Checked.isVersion (checked : f.Checked) : f.IsVersion f :=
  ⟨checked, rfl, rfl, rfl, rfl⟩

end Construction

/-! ## Setting the value once -/

section Step

variable {origin f g : Filter} {text kept : String}

theorem withValue_of_isNullary (nullary : f.operator.isNullary) : f.withValue text = .ok f :=
  if_pos nullary

theorem withValue_eq_ok_iff (needed : ¬ f.operator.isNullary) :
    f.withValue text = .ok g ↔ ∃ kept, f.field.kind.normalize f.field.choices text = .ok kept ∧
      g = { f with value? := some kept } := by
  rw [withValue, if_neg needed]
  cases f.field.kind.normalize f.field.choices text with
  | error fault => simp
  | ok kept => simp [eq_comm]

theorem IsVersion.of_withValue (version : origin.IsVersion f) (set : f.withValue text = .ok g) :
    origin.IsVersion g := by
  by_cases nullary : f.operator.isNullary
  · rw [withValue_of_isNullary nullary] at set
    cases set
    exact version
  · obtain ⟨kept, _, rfl⟩ := (withValue_eq_ok_iff nullary).mp set
    rcases version with ⟨⟨field_mem, operator_mem, keyed, _⟩, entity, field, operator, key⟩
    exact ⟨⟨field_mem, operator_mem, keyed, iff_of_false nofun nullary⟩, entity, field, operator, key⟩

/-- Where a value is taken, the one before it is not looked at. -/
theorem withValue_of_other_value (needed : ¬ f.operator.isNullary) (value? : Option String)
    (text : String) : { f with value? := value? }.withValue text = f.withValue text := by
  simp only [withValue, if_neg needed]

theorem IsVersion.eq (version : origin.IsVersion f) : f = { origin with value? := f.value? } := by
  rcases version with ⟨_, entity, field, operator, key⟩
  rw [← entity, ← field, ← operator, ← key]

/-- All versions of a filter answer alike to a text. -/
theorem IsVersion.withValue_eq (version : origin.IsVersion f) (checked : origin.Checked)
    (text : String) : f.withValue text = origin.withValue text := by
  by_cases nullary : origin.operator.isNullary
  · -- None of them has a value, so there is one version only.
    have none : f.value? = origin.value? := by
      rw [checked.value_eq_none_iff.mpr nullary, version.value_eq_none_iff, version.operator_eq]
      exact nullary
    rw [version.eq, none]
  · rw [version.eq]
    exact withValue_of_other_value nullary f.value? text

/-- What a filter keeps of a text, it keeps again. -/
theorem Checked.withValue_value (checked : f.Checked) (set : f.withValue text = .ok g)
    (value : g.value? = some kept) : g.withValue kept = .ok g := by
  by_cases nullary : f.operator.isNullary
  · rw [withValue_of_isNullary nullary] at set
    cases set
    rw [checked.value_eq_none_iff.mpr nullary] at value
    cases value
  · obtain ⟨_, format, rfl⟩ := (withValue_eq_ok_iff nullary).mp set
    cases value
    rw [withValue_of_other_value nullary]
    exact (withValue_eq_ok_iff nullary).mpr ⟨kept, ValueKind.normalize_of_normalize format, rfl⟩

end Step

/-! ## Setting the value again and again -/

/-- The filter with a text as its value, or the filter as it was if the text is refused. -/
def trySet (f : Filter) (text : String) : Filter :=
  match f.withValue text with
  | .ok g => g
  | .error _ => f

/-- The filter after trying to set texts as its value, one after another. -/
def run (f : Filter) (texts : List String) : Filter :=
  texts.foldl trySet f

section Run

variable {origin f : Filter}

theorem IsVersion.trySet (version : origin.IsVersion f) (text : String) :
    origin.IsVersion (f.trySet text) := by
  unfold Filter.trySet
  split
  · next set => exact version.of_withValue set
  · exact version

theorem isVersion_run (version : origin.IsVersion f) (texts : List String) :
    origin.IsVersion (f.run texts) := by
  induction texts generalizing f with
  | nil => exact version
  | cons text texts ih => exact ih (version.trySet text)

/-- A filter keeps its parts over every run of texts that are tried as its value, and answers to the
next text as it did before the run. A text that it takes it takes again, and so the value that it keeps
of it. -/
theorem withValue_after_any_history {entity : Entity} {name : String} {op : Operator}
    {key? value? : Option String} (made : ofName entity name op key? value? = .ok origin)
    (texts : List String) :
    (origin.entity = entity ∧ entity.field? name = some origin.field ∧ origin.operator = op) ∧
    origin.IsVersion (origin.run texts) ∧
    ∀ text, (origin.run texts).withValue text = origin.withValue text ∧
      ∀ g, (origin.run texts).withValue text = .ok g →
        g.withValue text = .ok g ∧ ∀ kept, g.value? = some kept → g.withValue kept = .ok g := by
  obtain ⟨checked, parts⟩ := checked_of_ofName made
  have version := isVersion_run checked.isVersion texts
  refine ⟨parts, version, fun text =>
    ⟨version.withValue_eq checked text, fun g set => ⟨?_, fun kept value => ?_⟩⟩⟩
  · rw [(version.of_withValue set).withValue_eq checked, ← version.withValue_eq checked, set]
  · exact version.toChecked.withValue_value set value

/-- A duration in Base64 is set to what is no number, to a number between blanks, and to nothing. -/
theorem withValue_after_any_history_of_duration :
    let origin : Filter := ⟨.traces, ⟨"duration", .number, []⟩, .greater, none, some "NQ=="⟩
    let f := origin.run ["soon", " 1e3\n", ""]
    ofName .traces " duration" .greater (some " ") (some "NQ==") = .ok origin ∧
      f = { origin with value? := some "1e3" } ∧ origin.IsVersion f ∧
      f.withValue " .5" = .ok { origin with value? := some ".5" } ∧
      f.withValue "1e400" = origin.withValue "1e400" := by
  intro origin f
  have made : ofName .traces " duration" .greater (some " ") (some "NQ==") = .ok origin := by
    decide +kernel
  obtain ⟨_, version, alike⟩ := withValue_after_any_history made ["soon", " 1e3\n", ""]
  refine ⟨made, by decide +kernel, version, ?_, (alike "1e400").1⟩
  rw [(alike " .5").1]
  decide +kernel

end Run

end Filter

end TypedFilters
