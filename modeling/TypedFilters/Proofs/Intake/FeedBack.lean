import TypedFilters.Proofs.Catalogue
import TypedFilters.Proofs.Intake.Soundness
import TypedFilters.Proofs.Json.RoundTrip
import TypedFilters.Session

/-!
# Written filters are taken in again

The text in which a list of accepted filters is written can be taken in again, without any encoding and
in any zone, and gives the same list (`filtersText_fed_back`). For one filter this means that its
names are looked up to themselves, and that its key and its value are fixed points of the checks
(`resolve_toDescriptor`); the list follows because the text is read back as it was written.
-/

namespace TypedFilters

/-! ## One filter -/

/-- The descriptor that a written filter is. -/
def Filter.toDescriptor (f : Filter) : Descriptor :=
  ⟨f.field.name, f.operator.name, f.key?, f.value?⟩

section One

variable {f : Filter} {zone : Zone} {limits : Limits}

theorem Descriptor.optionalText_optionalText (s? : Option String) :
    Descriptor.optionalText (Filter.optionalText s?) = .ok s? := by
  cases s? <;> rfl

theorem Descriptor.scalarText_optionalText (s? : Option String) :
    Descriptor.scalarText (Filter.optionalText s?) = .ok s? := by
  cases s? <;> rfl

/-- The members of a written filter are those of its descriptor, and one more that is passed over. -/
theorem Descriptor.ofValue_toJson (f : Filter) : Descriptor.ofValue f.toJson = .ok f.toDescriptor := by
  simp only [Filter.toJson, Descriptor.ofValue, Descriptor.ofMembers, List.foldlM_cons, List.foldlM_nil,
    Draft.add, String.reduceEq, if_true, if_false, text, optionalText_optionalText,
    scalarText_optionalText, Except.map, bind, Except.bind, pure, Except.pure]
  rfl

theorem Descriptor.taggedOfValue_toJson (f : Filter) :
    Descriptor.taggedOfValue f.toJson = .ok (f.entity.name, f.toDescriptor) := by
  have entity : f.toJson.member? "entity" = some (.string f.entity.name) := rfl
  have members := ofValue_toJson f
  unfold Filter.toJson at entity members ⊢
  simp only [Descriptor.ofValue] at members
  simp only [Descriptor.taggedOfValue, entity, text, members, bind, Except.bind]

namespace Intake

/-- A well-typed filter with a value that is not blank is taken in again from its own descriptor. -/
theorem resolve_toDescriptor (wellTyped : f.WellTyped) (visible : ∀ v ∈ f.value?, ¬ Text.isBlank v) :
    (ofEncoding .plain zone limits).resolve f.entity f.toDescriptor = .ok f := by
  have selects : Selects f.entity f.toDescriptor f.operator f.field :=
    ⟨Operator.named?_name f.operator, Entity.field?_name wellTyped.field_mem,
      List.contains_iff_mem.mpr wellTyped.operator_mem⟩
  have key : Filter.checkKey f.field.kind f.key? = .ok f.key? := by
    rw [checkKey_eq_ok_iff]
    by_cases dictionary : f.field.kind = .dictionary
    · obtain ⟨key, given, nonblank⟩ := wellTyped.keyed dictionary
      rw [given, dictionary]
      exact ⟨Text.nonBlank?_eq_some_iff.mpr ⟨rfl, nonblank⟩, rfl⟩
    · rw [wellTyped.unkeyed dictionary]
      exact ⟨rfl, (Bool.eq_false_iff.mpr (mt (ValueKind.needsKey_iff _).mp dictionary)).symm⟩
  cases value : f.value? with
  | none =>
    have nullary := wellTyped.value_eq_none_iff.mp value
    have passes : Passes f.entity f.toDescriptor f.operator f.field f.key? none :=
      ⟨selects, key, checkPresence_eq_ok_none_iff.mpr nullary⟩
    rw [resolve_of_passes_none passes, ← value]
  | some v =>
    have present : Filter.checkPresence f.operator f.value? = .ok (some v) := by
      rw [checkPresence_eq_ok_some_iff, ← wellTyped.value_eq_none_iff, value]
      exact ⟨nofun, rfl, visible v value⟩
    have passes : Passes f.entity f.toDescriptor f.operator f.field f.key? (some v) :=
      ⟨selects, key, present⟩
    have format := ValueKind.normalize_of_fits (wellTyped.fits v value)
      (Entity.trim_choice wellTyped.field_mem) zone
    rw [resolve_of_passes_some passes (decode_eq_ok_iff.mpr ⟨v, rfl, rfl⟩) format, ← value]

theorem resolveItem_toJson (wellTyped : f.WellTyped)
    (visible : ∀ v ∈ f.value?, ¬ Text.isBlank v) :
    (ofEncoding .plain zone limits).resolveItem f.entity f.toJson = .ok f := by
  rw [resolveItem, Descriptor.ofValue_toJson]
  exact resolve_toDescriptor wellTyped visible

theorem resolveTagged_toJson (wellTyped : f.WellTyped)
    (visible : ∀ v ∈ f.value?, ¬ Text.isBlank v) :
    (ofEncoding .plain zone limits).resolveTagged f.toJson = .ok f := by
  rw [resolveTagged, Descriptor.taggedOfValue_toJson]
  dsimp only
  rw [Entity.named?_name]
  exact resolve_toDescriptor wellTyped visible

end Intake

end One

/-! ## Whole lists -/

namespace Intake

theorem readable_toJson (f : Filter) (depth : Nat) : Json.Readable (depth + 1) f.toJson := by
  have optional : ∀ s?, Json.Readable depth (Filter.optionalText s?) := by
    intro s?
    cases s? with
    | none => exact .null
    | some s => exact .string
  refine .object (show ["entity", "field", "operator", "key", "value"].Nodup by decide) ?_
  simp only [List.forall_mem_cons, optional, Json.Readable.string, true_and]
  exact List.forall_mem_nil _

/-- The written list is read back as a list of written filters. -/
theorem document_filtersText (filters : List Filter) :
    Json.document (Settings.filtersText filters) = .ok (.array (filters.map Filter.toJson)) := by
  apply Json.document_pretty
  refine .array fun v written => ?_
  obtain ⟨f, _, rfl⟩ := List.mem_map.mp written
  exact readable_toJson f _

theorem not_isBlank_filtersText (filters : List Filter) :
    ¬ Text.isBlank (Settings.filtersText filters) := by
  rw [Settings.filtersText, Json.pretty, Text.isBlank, String.toList_ofList]
  cases filters <;> exact Bool.false_ne_true

theorem itemsOf_filtersText (filters : List Filter) :
    ItemsOf (Settings.filtersText filters) (filters.map Filter.toJson) := by
  rw [ItemsOf, if_neg (not_isBlank_filtersText filters)]
  exact document_filtersText filters

/-- A list of filters that was accepted, with no value of blanks only, is accepted again from the text
that it is written in, in any zone, by limits that admit this text and the number of its filters, and
gives the same list: as filters that name their entities, and as filters of one entity if they all are
of that entity. Without an encoding no value consists of blanks only. -/
theorem filtersText_fed_back (encoding : Encoding) (zone zone' : Zone) (limits limits' : Limits)
    (filters : List Filter) (accepted : (ofEncoding encoding zone limits).Accepts filters)
    (visible : encoding = .plain ∨ ∀ f ∈ filters, ∀ v ∈ f.value?, ¬ Text.isBlank v)
    (size : (Settings.filtersText filters).utf8ByteSize ≤ limits'.maxJsonBytes)
    (count : filters.length ≤ limits'.maxFilters) :
    (ofEncoding .plain zone' limits').parseTagged (Settings.filtersText filters) = .ok filters ∧
      ∀ entity, (∀ f ∈ filters, f.entity = entity) →
        (ofEncoding .plain zone' limits').parse entity (Settings.filtersText filters) = .ok filters := by
  have wellTyped : ∀ f ∈ filters, f.WellTyped :=
    forall_of_accepts (fun resolved => (wellTyped_of_resolve resolved).2) accepted
  have visible' : ∀ f ∈ filters, ∀ v ∈ f.value?, ¬ Text.isBlank v := by
    rcases visible with rfl | visible
    · exact forall_of_accepts not_isBlank_of_resolve accepted
    · exact visible
  have items : (ofEncoding .plain zone' limits').readList (Settings.filtersText filters) =
      .ok (filters.map Filter.toJson) := by
    rw [readList_eq_ok_iff, List.length_map]
    exact ⟨size, itemsOf_filtersText filters, count⟩
  constructor
  · refine parseTagged_eq_ok_iff.mpr ⟨_, items, ?_⟩
    rw [List.forall₂_map_left_iff, List.forall₂_same]
    exact fun f inList => resolveTagged_toJson (wellTyped f inList) (visible' f inList)
  · intro entity same
    refine parse_eq_ok_iff.mpr ⟨_, items, ?_⟩
    rw [List.forall₂_map_left_iff, List.forall₂_same]
    intro f inList
    rw [← same f inList]
    exact resolveItem_toJson (wellTyped f inList) (visible' f inList)

/-- A quoted name and a time that was given with an offset, taken in again in another zone. -/
theorem filtersText_fed_back_of_two_traces :
    let filters : List Filter :=
      [⟨.traces, ⟨"name", .string, []⟩, .contains, none, some "\"\\\x01é"⟩,
        ⟨.traces, ⟨"start_time", .dateTime, []⟩, .less, none, some "2023-12-31T22:00:00Z"⟩]
    (ofEncoding .plain ⟨"UTC", 0, []⟩ ⟨2, 1⟩).Accepts filters ∧
      (ofEncoding .plain ⟨"Ahead", 3600, []⟩ ⟨2, 400⟩).parseTagged (Settings.filtersText filters) =
        .ok filters ∧
      (ofEncoding .plain ⟨"Ahead", 3600, []⟩ ⟨2, 400⟩).parse .traces
        (Settings.filtersText filters) = .ok filters := by
  intro filters
  have accepted : (ofEncoding .plain ⟨"UTC", 0, []⟩ ⟨2, 1⟩).Accepts filters :=
    .inr <| .inr ⟨.traces,
      [⟨"name", "contains", none, some "\"\\\x01é"⟩,
        ⟨"start_time", "<", none, some "2024-01-01T00:00:00+02:00"⟩], by decide +kernel⟩
  obtain ⟨tagged, parsed⟩ := filtersText_fed_back .plain ⟨"UTC", 0, []⟩ ⟨"Ahead", 3600, []⟩ ⟨2, 1⟩
    ⟨2, 400⟩ filters accepted (.inl rfl) (by decide +kernel) (by decide)
  exact ⟨accepted, tagged, parsed .traces (by decide)⟩

end Intake

end TypedFilters
