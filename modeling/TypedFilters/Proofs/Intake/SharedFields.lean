import TypedFilters.Proofs.Catalogue
import TypedFilters.Proofs.Intake.Batch

/-!
# Fields that two entities share

An entity decides about a descriptor through the field that it has under the name, and through nothing
else. So descriptors on fields that two entities share are taken in for one of them as for the other, with
the same filters or the same refusal (`ofDescriptors_eq_map`). Of the fields of traces all but three are
fields of spans too, with the same kind and the same choices (`mem_spans_of_mem_traces`): a list that is
accepted for traces is accepted for spans exactly if it names none of the three, and then gives the same
predicates (`spans_like_traces`). One of the three is the creator of a record
(`creator_unknown_to_spans`).
-/

namespace TypedFilters

/-- The same predicate on another entity. -/
def Filter.on (entity : Entity) (f : Filter) : Filter :=
  { f with entity := entity }

/-- The filters compare fields of the same name and kind in the same way. -/
structure Filter.SamePredicate (f g : Filter) : Prop where
  field : g.field.name = f.field.name
  kind : g.field.kind = f.field.kind
  operator : g.operator = f.operator
  key : g.key? = f.key?
  value : g.value? = f.value?

namespace Intake

/-! ## Descriptors on shared fields -/

section Shared

variable {intake : Intake} {entity entity' : Entity} {d : Descriptor} {field : Field}

/-- A descriptor on a field that both entities have becomes the same for both. -/
theorem resolve_eq_map (found : entity.field? d.field = some field)
    (found' : entity'.field? d.field = some field) :
    intake.resolve entity' d = (intake.resolve entity d).map (Filter.on entity') := by
  cases named : Operator.named? d.operator with
  | none =>
    rw [resolve_of_unknownOperator named, resolve_of_unknownOperator named]
    rfl
  | some op =>
    by_cases supported : field.supports op
    · have selects : Selects entity d op field := ⟨named, found, supported⟩
      have selects' : Selects entity' d op field := ⟨named, found', supported⟩
      rw [resolve_eq_of_selects_keptValue selects, resolve_eq_of_selects_keptValue selects']
      cases Filter.checkKey field.kind d.key? with
      | error fault => rfl
      | ok key? => cases intake.keptValue field op d.value? <;> rfl
    · rw [resolve_of_unsupported named found supported, resolve_of_unsupported named found' supported]
      rfl

/-- A descriptor that gives a filter names the field of this filter. -/
theorem field?_of_resolve_eq_ok {f : Filter} (resolved : intake.resolve entity d = .ok f) :
    entity.field? d.field = some f.field := by
  have outcome := resolves_resolve intake entity d
  rw [resolved] at outcome
  cases outcome with
  | withoutValue passes => exact passes.found
  | withValue passes => exact passes.found

end Shared

/-! ## Lists on shared fields -/

section Lists

variable {α : Type} {intake : Intake} {entity entity' : Entity} {descriptors : List Descriptor}

/-- Items that become the same up to a change of their filters make lists that become so. -/
theorem resolveAll_eq_map {one one' : α → Except FilterError Filter} {change : Filter → Filter}
    {items : List α} (each : ∀ item ∈ items, one' item = (one item).map change) (index : Nat) :
    resolveAll one' index items = (resolveAll one index items).map (List.map change) := by
  induction items generalizing index with
  | nil => rfl
  | cons item rest ih =>
    rw [List.forall_mem_cons] at each
    rcases each with ⟨first, each⟩
    rw [resolveAll, resolveAll, first, ih each]
    cases one item with
    | error e => rfl
    | ok f => cases resolveAll one (index + 1) rest <;> rfl

/-- Lists on shared fields are taken in alike. -/
theorem ofDescriptors_eq_map
    (shared : ∀ d ∈ descriptors, ∃ field, entity.field? d.field = some field ∧
      entity'.field? d.field = some field) :
    intake.ofDescriptors entity' descriptors =
      (intake.ofDescriptors entity descriptors).map (List.map (Filter.on entity')) := by
  have each : ∀ d ∈ descriptors,
      intake.resolve entity' d = (intake.resolve entity d).map (Filter.on entity') := by
    intro d member
    obtain ⟨field, found, found'⟩ := shared d member
    exact resolve_eq_map found found'
  rw [ofDescriptors_eq_bind, ofDescriptors_eq_bind]
  cases few : intake.checkCount descriptors with
  | error e => rfl
  | ok counted =>
    obtain ⟨_, rfl⟩ := checkCount_eq_ok_iff.mp few
    exact resolveAll_eq_map each 0

/-- Each descriptor of a list that is accepted names a field of the entity. -/
theorem exists_field_of_ofDescriptors {filters : List Filter}
    (accepted : intake.ofDescriptors entity descriptors = .ok filters) :
    ∀ d ∈ descriptors, ∃ field, entity.field? d.field = some field := by
  obtain ⟨_, each⟩ := ofDescriptors_eq_ok_iff.mp accepted
  have named : List.Forall₂ (fun d f => (∃ field, entity.field? d.field = some field) ∧
      intake.resolve entity d = .ok f) descriptors filters :=
    each.imp fun d f resolved => ⟨⟨f.field, field?_of_resolve_eq_ok resolved⟩, resolved⟩
  exact ((List.forall₂_and_left _ _).mp named).1

end Lists

/-! ## Traces and spans -/

/-- The names of the fields that traces have and spans have not. -/
def tracesOnly : List String :=
  ["thread_id", "llm_span_count", "created_by"]

section Tables

variable {field : Field}

/-- All other fields of traces are fields of spans, of the same kind. -/
theorem mem_spans_of_mem_traces (mem : field ∈ Entity.traces.fields) (other : field.name ∉ tracesOnly) :
    field ∈ Entity.spans.fields := by
  have all : ∀ f ∈ Entity.traces.fields, f.name ∉ tracesOnly → f ∈ Entity.spans.fields := by
    decide +kernel
  exact all field mem other

theorem not_mem_tracesOnly (mem : field ∈ Entity.spans.fields) : field.name ∉ tracesOnly := by
  have all : ∀ f ∈ Entity.spans.fields, f.name ∉ tracesOnly := by
    decide +kernel
  exact all field mem

end Tables

/-- A list that is accepted for traces is accepted for spans too if it names none of three fields, and
gives the same predicates filter by filter. A list that names one of the three is not. -/
theorem spans_like_traces (encoding : Encoding) (zone : Zone) (limits : Limits)
    (descriptors : List Descriptor) (filters : List Filter)
    (accepted : (ofEncoding encoding zone limits).ofDescriptors .traces descriptors = .ok filters) :
    ((∀ d ∈ descriptors, Text.trim d.field ∉ tracesOnly) →
      ∃ filters', (ofEncoding encoding zone limits).ofDescriptors .spans descriptors = .ok filters' ∧
        List.Forall₂ (fun f g => g.entity = .spans ∧ f.SamePredicate g) filters filters') ∧
    ((∃ d ∈ descriptors, Text.trim d.field ∈ tracesOnly) →
      ∀ filters', (ofEncoding encoding zone limits).ofDescriptors .spans descriptors ≠ .ok filters') := by
  constructor
  · intro others
    have shared : ∀ d ∈ descriptors, ∃ field, Entity.traces.field? d.field = some field ∧
        Entity.spans.field? d.field = some field := by
      intro d member
      obtain ⟨field, found⟩ := exists_field_of_ofDescriptors accepted d member
      obtain ⟨listed, name⟩ := Entity.field?_eq_some_iff.mp found
      have other : field.name ∉ tracesOnly := name ▸ others d member
      exact ⟨field, found, Entity.field?_eq_some_iff.mpr ⟨mem_spans_of_mem_traces listed other, name⟩⟩
    refine ⟨filters.map (Filter.on .spans), ?_, ?_⟩
    · rw [ofDescriptors_eq_map shared, accepted]
      rfl
    · rw [List.forall₂_map_right_iff, List.forall₂_same]
      exact fun f _ => ⟨rfl, ⟨rfl, rfl, rfl, rfl, rfl⟩⟩
  · rintro ⟨d, member, only⟩ filters' accepted'
    obtain ⟨field, found⟩ := exists_field_of_ofDescriptors accepted' d member
    obtain ⟨listed, name⟩ := Entity.field?_eq_some_iff.mp found
    exact not_mem_tracesOnly listed (name ▸ only)

/-- A blank in front of a field, an operator in capitals, and a date of a zone nine hours ahead. -/
theorem spans_like_traces_of_metadata :
    let zone : Zone := ⟨"Asia/Tokyo", 32400, []⟩
    let intake := ofEncoding .base64 zone .standard
    let descriptors : List Descriptor :=
      [⟨" metadata", "CONTAINS", some "stage", some "YmV0YQ"⟩,
        ⟨"start_time", ">", none, some "MjAyNC0wMS0xNQ=="⟩]
    let filters : List Filter :=
      [⟨.traces, ⟨"metadata", .dictionary, []⟩, .contains, some "stage", some "beta"⟩,
        ⟨.traces, ⟨"start_time", .dateTime, []⟩, .greater, none, some "2024-01-14T15:00:00Z"⟩]
    intake.ofDescriptors .traces descriptors = .ok filters ∧
      (∀ d ∈ descriptors, Text.trim d.field ∉ tracesOnly) ∧
      (∃ filters', intake.ofDescriptors .spans descriptors = .ok filters' ∧
        List.Forall₂ (fun f g => g.entity = .spans ∧ f.SamePredicate g) filters filters') ∧
      ∀ filters', intake.ofDescriptors .spans [⟨"thread_id", "is_empty", none, none⟩] ≠ .ok filters' := by
  intro zone intake descriptors filters
  have accepted : intake.ofDescriptors .traces descriptors = .ok filters := by decide +kernel
  have others : ∀ d ∈ descriptors, Text.trim d.field ∉ tracesOnly := by decide +kernel
  have thread : intake.ofDescriptors .traces [⟨"thread_id", "is_empty", none, none⟩] =
      .ok [⟨.traces, ⟨"thread_id", .string, []⟩, .isEmpty, none, none⟩] := by
    decide +kernel
  have only : ∃ d ∈ [(⟨"thread_id", "is_empty", none, none⟩ : Descriptor)],
      Text.trim d.field ∈ tracesOnly := by
    decide +kernel
  exact ⟨accepted, others, (spans_like_traces .base64 zone .standard _ _ accepted).1 others,
    (spans_like_traces .base64 zone .standard _ _ thread).2 only⟩

/-- Who has created a trace can be asked for, but not who has created a span. -/
theorem creator_unknown_to_spans :
    let intake := ofEncoding .plain ⟨"UTC", 0, []⟩ .standard
    let d : Descriptor := ⟨"created_by", "=", none, some "alice"⟩
    (Text.trim d.field ≠ "thread_id" ∧ Text.trim d.field ≠ "llm_span_count") ∧
      intake.ofDescriptors .traces [d] =
        .ok [⟨.traces, ⟨"created_by", .string, []⟩, .equal, none, some "alice"⟩] ∧
      intake.ofDescriptors .spans [d] =
        .error ⟨.unknownField "created_by" .spans, some 0, some "created_by"⟩ := by
  decide +kernel

end Intake

end TypedFilters
