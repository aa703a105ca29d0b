import TypedFilters.Proofs.Filter.WellTyped
import TypedFilters.Proofs.Intake.Batch

/-!
# Accepted lists are well typed

Whatever the encoding, the zone and the limits: a list of filters that is accepted has no more filters
than the limit, and every filter in it is well typed and belongs to the entity that is asked for, or
that its item names (`accepted_wellTyped`).
-/

namespace TypedFilters.Intake

variable {encoding : Encoding} {zone : Zone} {limits : Limits}

theorem decode_eq_ok_iff {kind : ValueKind} {raw decoded : String} :
    (ofEncoding encoding zone limits).decode kind raw = .ok decoded ↔
      ∃ s, encoding.text raw = .ok s ∧ kind.inUtc zone s = decoded := by
  simp only [ofEncoding, ValueKind.decode_eq_map]
  cases encoding.text raw with
  | error fault => exact iff_of_false nofun fun ⟨_, text, _⟩ => nomatch text
  | ok s => simp only [Except.map, Except.ok.injEq, exists_eq_left']

/-- What is left of a descriptor that passes the checks is a well-typed filter once its value has the
format of its kind. -/
theorem wellTyped_of_passes {entity : Entity} {d : Descriptor} {op : Operator} {field : Field}
    {key? raw? kept? : Option String} (passes : Passes entity d op field key? raw?)
    (present : kept? = none ↔ raw? = none)
    (fits : ∀ v ∈ kept?, field.kind.Fits field.choices v) :
    Filter.WellTyped ⟨entity, field, op, key?, kept?⟩ := by
  obtain ⟨given, needed⟩ := checkKey_eq_ok_iff.mp passes.key
  refine ⟨List.mem_of_find?_eq_some passes.found, List.contains_iff_mem.mp passes.supported, ?_, ?_, ?_,
    fits⟩
  · intro dictionary
    rw [(ValueKind.needsKey_iff _).mpr dictionary, Option.isSome_iff_exists] at needed
    rcases needed with ⟨key, rfl⟩
    exact ⟨key, rfl, (Text.nonBlank?_eq_some_iff.mp given).2⟩
  · intro other
    rw [Bool.eq_false_iff.mpr (mt (ValueKind.needsKey_iff _).mp other)] at needed
    exact Option.isSome_eq_false_iff.mp needed |> Option.isNone_iff_eq_none.mp
  · rw [present]
    cases raw? with
    | none => exact iff_of_true rfl (checkPresence_eq_ok_none_iff.mp passes.present)
    | some raw => exact iff_of_false nofun (checkPresence_eq_ok_some_iff.mp passes.present).1

/-- A descriptor is resolved to a well-typed filter of the entity. -/
theorem wellTyped_of_resolve {entity : Entity} {d : Descriptor} {f : Filter}
    (resolved : (ofEncoding encoding zone limits).resolve entity d = .ok f) :
    f.entity = entity ∧ f.WellTyped := by
  have outcome := resolves_resolve (ofEncoding encoding zone limits) entity d
  rw [resolved] at outcome
  cases outcome with
  | withoutValue passes => exact ⟨rfl, wellTyped_of_passes passes Iff.rfl nofun⟩
  | withValue passes decodes format =>
    obtain ⟨s, _, rfl⟩ := decode_eq_ok_iff.mp decodes
    refine ⟨rfl, wellTyped_of_passes passes (by simp only [reduceCtorEq]) ?_⟩
    intro v kept
    cases kept
    exact ValueKind.fits_of_normalize format

/-- Without an encoding, no value that is kept consists of blanks only. -/
theorem not_isBlank_of_resolve {entity : Entity} {d : Descriptor} {f : Filter}
    (resolved : (ofEncoding .plain zone limits).resolve entity d = .ok f) :
    ∀ v ∈ f.value?, ¬ Text.isBlank v := by
  have outcome := resolves_resolve (ofEncoding .plain zone limits) entity d
  rw [resolved] at outcome
  cases outcome with
  | withoutValue => exact fun _ none => nomatch none
  | withValue passes decodes format =>
    obtain ⟨s, ⟨rfl⟩, rfl⟩ := decode_eq_ok_iff.mp decodes
    intro v kept
    cases kept
    exact ValueKind.not_isBlank_of_normalize (checkPresence_eq_ok_some_iff.mp passes.present).2.2 format

theorem wellTyped_of_resolveItem {entity : Entity} {item : Json.Value} {f : Filter}
    (resolved : (ofEncoding encoding zone limits).resolveItem entity item = .ok f) :
    f.entity = entity ∧ f.WellTyped := by
  obtain ⟨d, resolved⟩ := exists_of_resolveItem_eq_ok resolved
  exact wellTyped_of_resolve resolved

/-- The item has a string under the name `entity` that names the entity of the filter. -/
def NamesEntity (item : Json.Value) (f : Filter) : Prop :=
  ∃ name, item.member? "entity" = some (.string name) ∧ Entity.named? name = some f.entity

theorem member?_of_taggedOfValue {item : Json.Value} {name : String} {d : Descriptor}
    (tagged : Descriptor.taggedOfValue item = .ok (name, d)) :
    item.member? "entity" = some (.string name) := by
  unfold Descriptor.taggedOfValue at tagged
  split at tagged
  · next members =>
    cases given : (Json.Value.object members).member? "entity" with
    | none =>
      rw [given] at tagged
      cases tagged
    | some entity =>
      rw [given] at tagged
      cases entity with
      | string s =>
        simp only [Descriptor.text, bind, Except.bind] at tagged
        cases read : Descriptor.ofMembers members with
        | error fault =>
          rw [read] at tagged
          cases tagged
        | ok descriptor =>
          rw [read] at tagged
          cases tagged
          rfl
      | _ => cases tagged
  · cases tagged

/-- An item that names its entity is resolved to a well-typed filter of that entity. -/
theorem wellTyped_of_resolveTagged {item : Json.Value} {f : Filter}
    (resolved : (ofEncoding encoding zone limits).resolveTagged item = .ok f) :
    NamesEntity item f ∧ f.WellTyped := by
  obtain ⟨name, d, entity, tagged, named, resolved⟩ := exists_of_resolveTagged_eq_ok resolved
  obtain ⟨rfl, wellTyped⟩ := wellTyped_of_resolve resolved
  exact ⟨⟨name, member?_of_taggedOfValue tagged, named⟩, wellTyped⟩

/-- Whatever the encoding, the zone and the limits: an accepted list is within its limit, and each of
its filters is well typed and of the entity that is asked for, or, where items name their entities, of
the one that its own item names. -/
theorem accepted_wellTyped (encoding : Encoding) (zone : Zone) (limits : Limits) (entity : Entity)
    (text : String) (descriptors : List Descriptor) (filters : List Filter) :
    ((ofEncoding encoding zone limits).parse entity text = .ok filters →
      filters.length ≤ limits.maxFilters ∧ ∀ f ∈ filters, f.entity = entity ∧ f.WellTyped) ∧
    ((ofEncoding encoding zone limits).parseTagged text = .ok filters →
      filters.length ≤ limits.maxFilters ∧ (∀ f ∈ filters, f.WellTyped) ∧
        ∃ items, ItemsOf text items ∧ List.Forall₂ NamesEntity items filters) ∧
    ((ofEncoding encoding zone limits).ofDescriptors entity descriptors = .ok filters →
      filters.length ≤ limits.maxFilters ∧ ∀ f ∈ filters, f.entity = entity ∧ f.WellTyped) := by
  simp only [parse_eq_ok_iff, parseTagged_eq_ok_iff, ofDescriptors_eq_ok_iff, readList_eq_ok_iff]
  refine ⟨?_, ?_, ?_⟩
  · intro accepted
    rcases accepted with ⟨items, ⟨_, _, few⟩, each⟩
    exact ⟨each.length_eq ▸ few, forall_of_each wellTyped_of_resolveItem each⟩
  · intro accepted
    rcases accepted with ⟨items, ⟨_, itemsOf, few⟩, each⟩
    exact ⟨each.length_eq ▸ few, forall_of_each (fun h => (wellTyped_of_resolveTagged h).2) each,
      items, itemsOf, each.imp fun _ _ h => (wellTyped_of_resolveTagged h).1⟩
  · intro accepted
    rcases accepted with ⟨few, each⟩
    exact ⟨each.length_eq ▸ few, forall_of_each wellTyped_of_resolve each⟩

/-- A time with an offset, given in any of the three ways, is kept in UTC. -/
theorem accepted_wellTyped_of_start_time :
    let intake := ofEncoding .plain ⟨"UTC", 0, []⟩ ⟨2, 100⟩
    let text := "[\x7b\"entity\":\"trace\",\"field\":\"start_time\",\"operator\":\">\"," ++
      "\"value\":\"2024-01-01T00:00:00+02:00\"\x7d]"
    let filters : List Filter :=
      [⟨.traces, ⟨"start_time", .dateTime, []⟩, .greater, none, some "2023-12-31T22:00:00Z"⟩]
    (intake.parse .traces text = .ok filters ∧ ∀ f ∈ filters, f.entity = .traces ∧ f.WellTyped) ∧
      (intake.parseTagged text = .ok filters ∧
        ∃ items, ItemsOf text items ∧ List.Forall₂ NamesEntity items filters) ∧
      intake.ofDescriptors .traces
          [⟨"start_time", ">", none, some "2024-01-01T00:00:00+02:00"⟩] = .ok filters ∧
      filters.length ≤ 2 := by
  intro intake text filters
  obtain ⟨parsed, tagged, given⟩ := accepted_wellTyped .plain ⟨"UTC", 0, []⟩ ⟨2, 100⟩ .traces text
    [⟨"start_time", ">", none, some "2024-01-01T00:00:00+02:00"⟩] filters
  have parse : intake.parse .traces text = .ok filters := by decide +kernel
  have parseTagged : intake.parseTagged text = .ok filters := by decide +kernel
  have ofDescriptors : intake.ofDescriptors .traces
      [⟨"start_time", ">", none, some "2024-01-01T00:00:00+02:00"⟩] = .ok filters := by
    decide +kernel
  exact ⟨⟨parse, (parsed parse).2⟩, ⟨parseTagged, (tagged parseTagged).2.2⟩, ofDescriptors,
    (given ofDescriptors).1⟩

end TypedFilters.Intake
