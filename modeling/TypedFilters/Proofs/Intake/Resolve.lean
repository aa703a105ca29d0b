import TypedFilters.Intake
import TypedFilters.Proofs.Text.Trimming

/-!
# Everything that can become of a descriptor

`Resolves` lists what can become of one descriptor, with all the checks that were passed on the way to
each outcome, and `resolves_resolve` says that nothing else happens. What is said of resolved
descriptors elsewhere follows from this list. Conversely, a descriptor that passes the checks is resolved
(`resolve_of_passes_none`, `resolve_of_passes_some`).
-/

namespace TypedFilters.Intake

/-- The names of a descriptor are those of an operator and of a field that supports it. -/
structure Selects (entity : Entity) (d : Descriptor) (op : Operator) (field : Field) : Prop where
  named : Operator.named? d.operator = some op
  found : entity.field? d.field = some field
  supported : field.supports op

/-- The descriptor also passes the checks of its key and of the presence of its value, which leave a
key and a value. -/
structure Passes (entity : Entity) (d : Descriptor) (op : Operator) (field : Field)
    (key? value? : Option String) : Prop extends Selects entity d op field where
  key : Filter.checkKey field.kind d.key? = .ok key?
  present : Filter.checkPresence op d.value? = .ok value?

/-- What becomes of a descriptor for an entity. -/
inductive Resolves (intake : Intake) (entity : Entity) (d : Descriptor) :
    Except FilterError Filter → Prop
  | unknownOperator (unknown : Operator.named? d.operator = none) :
      Resolves intake entity d (.error (.onField d.field (.unknownOperator d.operator)))
  | unknownField {op} (named : Operator.named? d.operator = some op)
      (unknown : entity.field? d.field = none) :
      Resolves intake entity d (.error (.onField d.field (.unknownField d.field entity)))
  | unsupported {op field} (named : Operator.named? d.operator = some op)
      (found : entity.field? d.field = some field) (unsupported : ¬ field.supports op) :
      Resolves intake entity d (.error (.onField field.name (.unsupportedOperator op field.kind)))
  | wrongKey {op field fault} (selects : Selects entity d op field)
      (key : Filter.checkKey field.kind d.key? = .error fault) :
      Resolves intake entity d (.error (.onField field.name fault))
  | missingValue {op field key? fault} (selects : Selects entity d op field)
      (key : Filter.checkKey field.kind d.key? = .ok key?)
      (value : Filter.checkPresence op d.value? = .error fault) :
      Resolves intake entity d (.error (.onField field.name fault))
  | withoutValue {op field key?} (passes : Passes entity d op field key? none) :
      Resolves intake entity d (.ok ⟨entity, field, op, key?, none⟩)
  | undecodable {op field key? raw fault} (passes : Passes entity d op field key? (some raw))
      (decodes : intake.decode field.kind raw = .error fault) :
      Resolves intake entity d (.error (.onField field.name (.undecodable fault)))
  | invalidValue {op field key? raw decoded fault}
      (passes : Passes entity d op field key? (some raw))
      (decodes : intake.decode field.kind raw = .ok decoded)
      (format : field.kind.normalize field.choices decoded = .error fault) :
      Resolves intake entity d (.error (.onField field.name (.invalidValue field.kind fault)))
  | withValue {op field key? raw decoded kept}
      (passes : Passes entity d op field key? (some raw))
      (decodes : intake.decode field.kind raw = .ok decoded)
      (format : field.kind.normalize field.choices decoded = .ok kept) :
      Resolves intake entity d (.ok ⟨entity, field, op, key?, some kept⟩)

section Checks

variable {op : Operator} {value? : Option String}

/-- The presence check leaves no value exactly if the operator is nullary. -/
theorem checkPresence_eq_ok_none_iff :
    Filter.checkPresence op value? = .ok none ↔ op.isNullary := by
  unfold Filter.checkPresence
  split
  · next nullary => exact iff_of_true rfl nullary
  · next other =>
    split
    · exact iff_of_false (fun absurd => nomatch absurd) other
    · exact iff_of_false (fun absurd => nomatch absurd) other

/-- The presence check leaves a value exactly if the operator is not nullary and that value is given
and not blank. -/
theorem checkPresence_eq_ok_some_iff {raw : String} :
    Filter.checkPresence op value? = .ok (some raw) ↔
      ¬ op.isNullary ∧ value? = some raw ∧ ¬ Text.isBlank raw := by
  unfold Filter.checkPresence
  split
  · next nullary => exact iff_of_false (fun absurd => nomatch absurd) (fun h => h.1 nullary)
  · next other =>
    rw [← Text.nonBlank?_eq_some_iff]
    cases Text.nonBlank? value? with
    | none => simp only [reduceCtorEq, and_false]
    | some v => exact ⟨fun left => ⟨other, Except.ok.inj left⟩, fun h => congrArg Except.ok h.2⟩

/-- The check of a key leaves the key that is given and not blank, if the kind needs one exactly when
there is one. -/
theorem checkKey_eq_ok_iff {kind : ValueKind} {key? kept? : Option String} :
    Filter.checkKey kind key? = .ok kept? ↔
      Text.nonBlank? key? = kept? ∧ kept?.isSome = kind.needsKey := by
  unfold Filter.checkKey
  cases kind.needsKey <;> cases Text.nonBlank? key? <;> cases kept? <;>
    simp only [reduceCtorEq, Except.ok.injEq, Option.some.injEq, Option.isSome_some,
      Option.isSome_none, Bool.true_eq_false, Bool.false_eq_true, and_true, and_false]

theorem eq_of_checkKey_eq_error {kind : ValueKind} {key? : Option String} {fault : FilterFault}
    (refused : Filter.checkKey kind key? = .error fault) :
    fault = .missingKey ∨ fault = .unexpectedKey kind := by
  unfold Filter.checkKey at refused
  split at refused
  · exact .inl (Except.error.inj refused).symm
  · exact .inr (Except.error.inj refused).symm
  · cases refused

theorem eq_of_checkPresence_eq_error {fault : FilterFault}
    (refused : Filter.checkPresence op value? = .error fault) : fault = .missingValue op := by
  unfold Filter.checkPresence at refused
  split at refused
  · cases refused
  split at refused
  · cases refused
  · exact (Except.error.inj refused).symm

end Checks

section Outcomes

variable {intake : Intake} {entity : Entity} {d : Descriptor} {op : Operator} {field : Field}

theorem resolve_of_selects (selects : Selects entity d op field) :
    intake.resolve entity d =
      match Filter.checkKey field.kind d.key? with
      | .error fault => .error (.onField field.name fault)
      | .ok key? =>
        match Filter.checkPresence op d.value? with
        | .error fault => .error (.onField field.name fault)
        | .ok none => .ok ⟨entity, field, op, key?, none⟩
        | .ok (some raw) =>
          match intake.decode field.kind raw with
          | .error fault => .error (.onField field.name (.undecodable fault))
          | .ok decoded => (⟨entity, field, op, key?, some raw⟩ : Filter).withValue decoded := by
  have field? : Filter.ofName entity d.field op d.key? d.value? =
      Filter.ofField entity field op d.key? d.value? := by
    rw [Filter.ofName, selects.found]
  have supported : ¬ (!field.supports op) = true := by
    rw [selects.supported]
    decide
  unfold resolve
  rw [selects.named]
  simp only [field?, Filter.ofField, if_neg supported, bind, Except.bind]
  cases Filter.checkKey field.kind d.key? with
  | error fault => rfl
  | ok key? =>
    cases Filter.checkPresence op d.value? with
    | error fault => rfl
    | ok value? =>
      cases value? with
      | none => rfl
      | some raw =>
        dsimp only
        cases intake.decode field.kind raw with
        | error fault => rfl
        | ok decoded => rfl

theorem resolve_of_unknownOperator (unknown : Operator.named? d.operator = none) :
    intake.resolve entity d = .error (.onField d.field (.unknownOperator d.operator)) := by
  unfold resolve
  rw [unknown]
  rfl

theorem resolve_of_unknownField (named : Operator.named? d.operator = some op)
    (unknown : entity.field? d.field = none) :
    intake.resolve entity d = .error (.onField d.field (.unknownField d.field entity)) := by
  have refused : Filter.ofName entity d.field op d.key? d.value? =
      .error (.onField d.field (.unknownField d.field entity)) := by
    rw [Filter.ofName, unknown]
  unfold resolve
  rw [named]
  simp only [refused, bind, Except.bind]

theorem resolve_of_unsupported (named : Operator.named? d.operator = some op)
    (found : entity.field? d.field = some field) (unsupported : ¬ field.supports op) :
    intake.resolve entity d =
      .error (.onField field.name (.unsupportedOperator op field.kind)) := by
  have refused : Filter.ofName entity d.field op d.key? d.value? =
      .error (.onField field.name (.unsupportedOperator op field.kind)) := by
    simp only [Filter.ofName, Filter.ofField, found, unsupported, Bool.not_false, if_true]
  unfold resolve
  rw [named]
  simp only [refused, bind, Except.bind]

/-- A descriptor that does not select a field and an operator is refused for its names. -/
theorem resolves_of_not_selects (unselected : ∀ op field, ¬ Selects entity d op field) :
    Resolves intake entity d (intake.resolve entity d) := by
  cases named : Operator.named? d.operator with
  | none =>
    rw [resolve_of_unknownOperator named]
    exact .unknownOperator named
  | some op =>
    cases found : entity.field? d.field with
    | none =>
      rw [resolve_of_unknownField named found]
      exact .unknownField named found
    | some field =>
      have unsupported : ¬ field.supports op :=
        fun supported => unselected op field ⟨named, found, supported⟩
      rw [resolve_of_unsupported named found unsupported]
      exact .unsupported named found unsupported

/-- A descriptor becomes one of the listed things. -/
theorem resolves_resolve (intake : Intake) (entity : Entity) (d : Descriptor) :
    Resolves intake entity d (intake.resolve entity d) := by
  by_cases selected : ∃ op field, Selects entity d op field
  · rcases selected with ⟨op, field, selects⟩
    rw [resolve_of_selects selects]
    cases key : Filter.checkKey field.kind d.key? with
    | error fault => exact .wrongKey selects key
    | ok key? =>
      dsimp only
      cases present : Filter.checkPresence op d.value? with
      | error fault => exact .missingValue selects key present
      | ok value? =>
        have passes : Passes entity d op field key? value? := ⟨selects, key, present⟩
        cases value? with
        | none => exact .withoutValue passes
        | some raw =>
          dsimp only
          cases decodes : intake.decode field.kind raw with
          | error fault => exact .undecodable passes decodes
          | ok decoded =>
            obtain ⟨other, _⟩ := checkPresence_eq_ok_some_iff.mp present
            dsimp only
            rw [Filter.withValue, if_neg other]
            cases format : field.kind.normalize field.choices decoded with
            | error fault => exact .invalidValue passes decodes format
            | ok kept => exact .withValue passes decodes format
  · exact resolves_of_not_selects fun op field selects => selected ⟨op, field, selects⟩

/-- What is kept of a value that is compared with a field: nothing under a nullary operator, and else the
value, decoded and in the form of its kind. -/
def keptValue (intake : Intake) (field : Field) (op : Operator) (value? : Option String) :
    Except FilterFault (Option String) :=
  match Filter.checkPresence op value? with
  | .error fault => .error fault
  | .ok none => .ok none
  | .ok (some raw) =>
    match intake.decode field.kind raw with
    | .error fault => .error (.undecodable fault)
    | .ok decoded =>
      match field.kind.normalize field.choices decoded with
      | .error fault => .error (.invalidValue field.kind fault)
      | .ok kept => .ok (some kept)

/-- Where a field and an operator are selected, the checks of the key and of the value decide. -/
theorem resolve_eq_of_selects_keptValue (selects : Selects entity d op field) :
    intake.resolve entity d =
      match Filter.checkKey field.kind d.key? with
      | .error fault => .error (.onField field.name fault)
      | .ok key? =>
        match intake.keptValue field op d.value? with
        | .error fault => .error (.onField field.name fault)
        | .ok value? => .ok ⟨entity, field, op, key?, value?⟩ := by
  rw [resolve_of_selects selects, keptValue]
  cases Filter.checkKey field.kind d.key? with
  | error fault => rfl
  | ok key? =>
    dsimp only
    cases present : Filter.checkPresence op d.value? with
    | error fault => rfl
    | ok value? =>
      cases value? with
      | none => rfl
      | some raw =>
        obtain ⟨other, _⟩ := checkPresence_eq_ok_some_iff.mp present
        dsimp only
        cases intake.decode field.kind raw with
        | error fault => rfl
        | ok decoded =>
          simp only [Filter.withValue, if_neg other]
          cases field.kind.normalize field.choices decoded <;> rfl

/-- Descriptors that select the same field and operator, with keys and values of which the same is kept,
become the same. -/
theorem resolve_eq_of_same_kept {intake' : Intake} {d' : Descriptor} (selects : Selects entity d op field)
    (selects' : Selects entity d' op field)
    (key : Text.nonBlank? d'.key? = Text.nonBlank? d.key?)
    (value : intake'.keptValue field op d'.value? = intake.keptValue field op d.value?) :
    intake'.resolve entity d' = intake.resolve entity d := by
  have sameKey : Filter.checkKey field.kind d'.key? = Filter.checkKey field.kind d.key? := by
    rw [Filter.checkKey, key, Filter.checkKey]
  rw [resolve_eq_of_selects_keptValue selects, resolve_eq_of_selects_keptValue selects', sameKey, value]

/-- A descriptor with a nullary operator is resolved without its value. -/
theorem resolve_of_passes_none {key? : Option String} (passes : Passes entity d op field key? none) :
    intake.resolve entity d = .ok ⟨entity, field, op, key?, none⟩ := by
  simp only [resolve_of_selects passes.toSelects, passes.key, passes.present]

/-- A descriptor with a value that is decoded and has the format of its field is resolved. -/
theorem resolve_of_passes_some {key? : Option String} {raw decoded kept : String}
    (passes : Passes entity d op field key? (some raw))
    (decodes : intake.decode field.kind raw = .ok decoded)
    (format : field.kind.normalize field.choices decoded = .ok kept) :
    intake.resolve entity d = .ok ⟨entity, field, op, key?, some kept⟩ := by
  obtain ⟨other, _⟩ := checkPresence_eq_ok_some_iff.mp passes.present
  simp only [resolve_of_selects passes.toSelects, passes.key, passes.present, decodes,
    Filter.withValue, if_neg other, format]

/-- A descriptor with a value that does not have the format of its field once it is decoded is refused. -/
theorem resolve_of_passes_invalid {key? : Option String} {raw decoded : String} {fault : ValueFault}
    (passes : Passes entity d op field key? (some raw))
    (decodes : intake.decode field.kind raw = .ok decoded)
    (format : field.kind.normalize field.choices decoded = .error fault) :
    intake.resolve entity d = .error (.onField field.name (.invalidValue field.kind fault)) := by
  obtain ⟨other, _⟩ := checkPresence_eq_ok_some_iff.mp passes.present
  simp only [resolve_of_selects passes.toSelects, passes.key, passes.present, decodes,
    Filter.withValue, if_neg other, format]

end Outcomes

end TypedFilters.Intake
