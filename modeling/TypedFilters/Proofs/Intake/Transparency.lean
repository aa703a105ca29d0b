import TypedFilters.Proofs.Filter.WellTyped
import TypedFilters.Proofs.Intake.Batch
import TypedFilters.Proofs.Transport.Base64
import TypedFilters.Proofs.Transport.Form

/-!
# Transport encodings are transparent

Descriptors whose values are written in Base64 or form-encoded are taken in exactly as the plain
descriptors are: the same filters, or the same refusal (`ofDescriptors_eq_plain`). A value that is not
blank may be written in any of the ways that its encoding has. A value of blanks only is left out: plain
it counts as absent, but its Base64 form does not.
-/

namespace TypedFilters.Intake

open Text

/-! ## Descriptors that cannot be told apart -/

/-- One descriptor has the value of the other in writing, and is else the same. -/
structure Carries (spells : String → String → Prop) (plain written : Descriptor) : Prop where
  field : written.field = plain.field
  operator : written.operator = plain.operator
  key : written.key? = plain.key?
  value : Option.Rel spells plain.value? written.value?

/-- The values of two descriptors both count as absent, or are decoded to the same text. -/
def SameValue (intake intake' : Intake) (value? value?' : Option String) : Prop :=
  nonBlank? value? = none ∧ nonBlank? value?' = none ∨
    ∃ raw raw', nonBlank? value? = some raw ∧ nonBlank? value?' = some raw' ∧
      ∀ kind, intake.decode kind raw = intake'.decode kind raw'

section Same

variable {intake intake' : Intake} {entity : Entity} {d d' : Descriptor}

/-- Of values that are the same, the same is kept. -/
theorem keptValue_eq_of_sameValue {value? value?' : Option String}
    (value : SameValue intake intake' value? value?') (field : Field) (op : Operator) :
    intake'.keptValue field op value?' = intake.keptValue field op value? := by
  by_cases nullary : op.isNullary
  · simp only [keptValue, Filter.checkPresence, if_pos nullary]
  rcases value with ⟨absent, absent'⟩ | ⟨raw, raw', given, given', decodes⟩
  · simp only [keptValue, Filter.checkPresence, if_neg nullary, absent, absent']
  · simp only [keptValue, Filter.checkPresence, if_neg nullary, given, given', decodes]

theorem resolve_eq_of_not_selects (unselected : ∀ op field, ¬ Selects entity d op field)
    (field : d'.field = d.field) (operator : d'.operator = d.operator) :
    intake'.resolve entity d' = intake.resolve entity d := by
  cases named : Operator.named? d.operator with
  | none =>
    rw [resolve_of_unknownOperator named, resolve_of_unknownOperator (operator ▸ named), operator,
      field]
  | some op =>
    cases found : entity.field? d.field with
    | none =>
      rw [resolve_of_unknownField named found,
        resolve_of_unknownField (operator ▸ named) (field ▸ found), field]
    | some selected =>
      have unsupported : ¬ selected.supports op :=
        fun supported => unselected op selected ⟨named, found, supported⟩
      rw [resolve_of_unsupported named found unsupported,
        resolve_of_unsupported (operator ▸ named) (field ▸ found) unsupported]

/-- Descriptors that differ in nothing but the writing of their value become the same. -/
theorem resolve_eq_of_sameValue (field : d'.field = d.field) (operator : d'.operator = d.operator)
    (key : d'.key? = d.key?) (value : SameValue intake intake' d.value? d'.value?) :
    intake'.resolve entity d' = intake.resolve entity d := by
  by_cases selected : ∃ op field, Selects entity d op field
  · rcases selected with ⟨op, selectedField, selects⟩
    have selects' : Selects entity d' op selectedField :=
      ⟨operator ▸ selects.named, field ▸ selects.found, selects.supported⟩
    exact resolve_eq_of_same_kept selects selects' (congrArg nonBlank? key)
      (keptValue_eq_of_sameValue value selectedField op)
  · apply resolve_eq_of_not_selects _ field operator
    intro op selectedField selects
    exact selected ⟨op, selectedField, selects⟩

end Same

/-! ## Values in writing -/

section Values

variable {zone : Zone} {limits : Limits} {v raw : String}

/-- Where the transport encoding can be stripped, the rest of decoding is that of a plain value. -/
theorem decode_eq_plain {encoding : Encoding} (text : encoding.text raw = .ok v) (kind : ValueKind) :
    (ofEncoding .plain zone limits).decode kind v =
      (ofEncoding encoding zone limits).decode kind raw := by
  simp only [ofEncoding, ValueKind.decode_eq_map, text]
  rfl

/-- A value in writing that is blank exactly if the value is empty is the same as the plain value. -/
theorem sameValue_of_text {encoding : Encoding} (visible : v = "" ∨ ¬ isBlank v)
    (text : encoding.text raw = .ok v) (blank : isBlank raw ↔ v = "") :
    SameValue (ofEncoding .plain zone limits) (ofEncoding encoding zone limits)
      (some v) (some raw) := by
  rcases visible with empty | visible
  · left
    have absent : ∀ {s}, isBlank s → nonBlank? (some s) = none := by
      intro s blank
      rw [nonBlank?, Option.filter_some, blank]
      rfl
    have nothing : isBlank "" := rfl
    exact ⟨absent (empty ▸ nothing), absent (blank.mpr empty)⟩
  · right
    have some : v ≠ "" := by
      intro empty
      rw [empty] at visible
      exact visible rfl
    exact ⟨v, raw, nonBlank?_eq_some_iff.mpr ⟨rfl, visible⟩,
      nonBlank?_eq_some_iff.mpr ⟨rfl, mt blank.mp some⟩, decode_eq_plain text⟩

end Values

/-- Descriptors in writing are taken in like plain ones if their values in writing are like plain
values. -/
theorem ofDescriptors_eq_of_carries {spells : String → String → Prop} {entity : Entity}
    {intake intake' : Intake} {plain written : List Descriptor} (limits : intake'.limits = intake.limits)
    (same : ∀ v raw, (v = "" ∨ ¬ isBlank v) → spells v raw →
      SameValue intake intake' (some v) (some raw))
    (visible : ∀ d ∈ plain, ∀ v ∈ d.value?, v = "" ∨ ¬ isBlank v)
    (carried : List.Forall₂ (Carries spells) plain written) :
    intake'.ofDescriptors entity written = intake.ofDescriptors entity plain := by
  have each : List.Forall₂ (fun d d' => intake'.resolve entity d' = intake.resolve entity d)
      plain written := by
    induction carried with
    | nil => exact .nil
    | @cons d d' _ _ carries _ ih =>
      rw [List.forall_mem_cons] at visible
      refine .cons (resolve_eq_of_sameValue carries.field carries.operator carries.key ?_) (ih visible.2)
      rcases visible with ⟨visible, _⟩
      have value := carries.value
      generalize d.value? = value? at visible value ⊢
      generalize d'.value? = value?' at value ⊢
      cases value with
      | none => exact .inl ⟨rfl, rfl⟩
      | some spelled => exact same _ _ (visible _ rfl) spelled
  rw [ofDescriptors_eq_bind, ofDescriptors_eq_bind]
  exact bind_checkCount_eq_of_each limits each

/-- Descriptors whose values are written in Base64 or form-encoded are taken in exactly as the plain
descriptors are, with the same filters or the same refusal. -/
theorem ofDescriptors_eq_plain (entity : Entity) (zone : Zone) (limits : Limits)
    (plain written : List Descriptor)
    (visible : ∀ d ∈ plain, ∀ v ∈ d.value?, v = "" ∨ ¬ isBlank v) :
    (List.Forall₂ (Carries Base64.Spells) plain written →
      (ofEncoding .base64 zone limits).ofDescriptors entity written =
        (ofEncoding .plain zone limits).ofDescriptors entity plain) ∧
    (List.Forall₂ (Carries Form.Spells) plain written →
      (ofEncoding .url zone limits).ofDescriptors entity written =
        (ofEncoding .plain zone limits).ofDescriptors entity plain) := by
  constructor
  · intro carried
    have same : ∀ v raw, (v = "" ∨ ¬ isBlank v) → Base64.Spells v raw →
        SameValue (ofEncoding .plain zone limits) (ofEncoding .base64 zone limits)
          (some v) (some raw) :=
      fun v raw visible spells => sameValue_of_text visible spells.text spells.isBlank_iff
    exact ofDescriptors_eq_of_carries rfl same visible carried
  · intro carried
    have same : ∀ v raw, (v = "" ∨ ¬ isBlank v) → Form.Spells v raw →
        SameValue (ofEncoding .plain zone limits) (ofEncoding .url zone limits)
          (some v) (some raw) :=
      fun v raw visible spells =>
        sameValue_of_text visible spells.text (spells.isBlank_iff visible)
    exact ofDescriptors_eq_of_carries rfl same visible carried

/-- A value with a plus sign, unpadded in Base64 between blanks, and form-encoded with a space. -/
theorem ofDescriptors_eq_plain_of_c_plus_plus :
    let plain : List Descriptor := [⟨"name", "contains", none, some "C ++"⟩]
    let base64 : List Descriptor := [⟨"name", "contains", none, some " QyArKw\n"⟩]
    let url : List Descriptor := [⟨"name", "contains", none, some "%43+%2B%2b"⟩]
    (∀ d ∈ plain, ∀ v ∈ d.value?, v = "" ∨ ¬ isBlank v) ∧
      (ofEncoding .base64 ⟨"UTC", 0, []⟩ ⟨1, 0⟩).ofDescriptors .prompts base64 =
        (ofEncoding .plain ⟨"UTC", 0, []⟩ ⟨1, 0⟩).ofDescriptors .prompts plain ∧
      (ofEncoding .url ⟨"UTC", 0, []⟩ ⟨1, 0⟩).ofDescriptors .prompts url =
        (ofEncoding .plain ⟨"UTC", 0, []⟩ ⟨1, 0⟩).ofDescriptors .prompts plain ∧
      (ofEncoding .plain ⟨"UTC", 0, []⟩ ⟨1, 0⟩).ofDescriptors .prompts plain =
        .ok [⟨.prompts, ⟨"name", .string, []⟩, .contains, none, some "C ++"⟩] := by
  intro plain base64 url
  have visible : ∀ d ∈ plain, ∀ v ∈ d.value?, v = "" ∨ ¬ isBlank v := by decide
  have spells64 : Base64.Spells "C ++" " QyArKw\n" :=
    ⟨.standard, false, [' '], ['\n'], List.forall_mem_singleton.mpr rfl,
      List.forall_mem_singleton.mpr rfl, by decide⟩
  have spellsUrl : Form.Spells "C ++" "%43+%2B%2b" := by
    have c : Form.Piece 'C' ['%', '4', '3'] := .escaped (.cons rfl rfl .nil)
    have first : Form.Piece '+' ['%', '2', 'B'] := .escaped (.cons rfl rfl .nil)
    have second : Form.Piece '+' ['%', '2', 'b'] := .escaped (.cons rfl rfl .nil)
    have pieces := Form.Pieces.cons c (.cons .plus (.cons first (.cons second .nil)))
    have text : "C ++".toList = ['C', ' ', '+', '+'] := by decide
    have written : "%43+%2B%2b".toList = ['%', '4', '3', '+', '%', '2', 'B', '%', '2', 'b'] := by
      decide
    rw [Form.Spells, text, written]
    exact pieces
  have carried64 : List.Forall₂ (Carries Base64.Spells) plain base64 :=
    .cons ⟨rfl, rfl, rfl, .some spells64⟩ .nil
  have carriedUrl : List.Forall₂ (Carries Form.Spells) plain url :=
    .cons ⟨rfl, rfl, rfl, .some spellsUrl⟩ .nil
  exact ⟨visible,
    (ofDescriptors_eq_plain .prompts ⟨"UTC", 0, []⟩ ⟨1, 0⟩ plain base64 visible).1 carried64,
    (ofDescriptors_eq_plain .prompts ⟨"UTC", 0, []⟩ ⟨1, 0⟩ plain url visible).2 carriedUrl,
    by decide +kernel⟩

end TypedFilters.Intake
