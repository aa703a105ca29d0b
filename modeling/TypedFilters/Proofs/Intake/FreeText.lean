import TypedFilters.Proofs.Intake.Acceptance
import TypedFilters.Proofs.Transport.Base64Exact
import TypedFilters.Proofs.Transport.FormReading

/-!
# Values of free text

The presence of a value is checked on the text as it is written, and its format on the text that is
decoded. For fields of free text the second check never fails: what is written in a text that is not blank
is not empty, whatever the transport encoding (`Encoding.text_ne_empty`). So no descriptor on such a field
is refused for the format of its value (`not_onFreeText_of_misfit`), and a value is missing exactly where
none is given and one is needed (`resolve_missingValue_iff`). `free_text_never_misfits` says so of the
three ways of taking in a list, which differ only in how their items give descriptors (`Judges`).
-/

namespace TypedFilters

open Text

/-! ## Decoded texts -/

section Decoding

variable {encoding : Encoding} {zone : Zone} {kind : ValueKind} {raw s : String}

/-- Base64 of the empty text is blank. -/
theorem Base64.text_ne_empty (visible : ¬ isBlank raw) : Encoding.base64.text raw ≠ .ok "" := by
  intro text
  by_cases encoded : ∃ bs, Encodes (octets (trim raw)) bs
  · rcases encoded with ⟨bs, written⟩
    rw [text_of_encodes written, Encoding.utf8_eq_ok_iff, octets_eq_nil_iff.mpr rfl] at text
    obtain ⟨a, padded, symbols⟩ := written
    rw [← text, encode_eq_nil_iff.mpr rfl, eq_comm, octets_eq_nil_iff, trim_eq_empty_iff] at symbols
    exact visible symbols
  · obtain ⟨fault, refused⟩ := text_of_not_encodes (not_exists.mp encoded)
    exact nomatch refused.symm.trans text

/-- What is written in a text that is not blank is not empty. -/
theorem Encoding.text_ne_empty (visible : ¬ isBlank raw) : encoding.text raw ≠ .ok "" := by
  cases encoding with
  | plain =>
    intro text
    cases text
    exact visible rfl
  | url =>
    intro text
    have reads := Form.text_url_eq_ok_iff.mp text
    rw [octets_eq_nil_iff.mpr rfl] at reads
    -- Every octet that is read leaves one, so there is none.
    generalize written : octets raw = bs at reads
    cases reads
    rw [octets_eq_nil_iff.mp written] at visible
    exact visible rfl
  | base64 => exact Base64.text_ne_empty visible

/-- A free text that is not blank is not decoded to the empty text. -/
theorem Encoding.decode_ne_empty (free : kind.isFreeText) (visible : ¬ isBlank raw) :
    encoding.decode zone kind raw ≠ .ok "" := by
  have asIs : kind.inUtc zone = id := by
    cases kind with
    | string | list | dictionary => rfl
    | number | dateTime | enum => cases free
  rw [ValueKind.decode_eq_map, asIs]
  cases text : encoding.text raw with
  | error fault => exact nofun
  | ok s =>
    rintro ⟨⟩
    exact text_ne_empty visible text

variable {choices : List String}

theorem ValueKind.eq_empty_of_normalize (free : kind.isFreeText) {fault : ValueFault}
    (refused : kind.normalize choices s = .error fault) : s = "" := by
  by_contra filled
  have kept : kind.normalize choices s = .ok s :=
    (normalize_eq_ok_iff_of_isFreeText free).mpr ⟨filled, rfl⟩
  exact nomatch refused.symm.trans kept

/-- Only a free text is refused as empty. -/
theorem ValueKind.isFreeText_of_normalize (refused : kind.normalize choices s = .error .empty) :
    kind.isFreeText := by
  by_contra trimmed
  rw [normalize, if_neg trimmed] at refused
  dsimp only at refused
  split at refused
  · cases refused
  cases kind with
  | string | list | dictionary => exact trimmed rfl
  | number | dateTime | enum =>
    rw [checkTrimmed] at refused
    split at refused <;> cases refused

end Decoding

namespace Intake

/-! ## Descriptors that are refused for their value -/

/-- The descriptor names a field of free text of the entity. -/
def OnFreeText (entity : Entity) (d : Descriptor) : Prop :=
  ∃ entry ∈ entity.fields, entry.name = trim d.field ∧ entry.kind.isFreeText

/-- No value is given under an operator that takes one and that the field lists, while a key is given
exactly if the field needs one. -/
def LacksValue (entity : Entity) (d : Descriptor) : Prop :=
  ∃ op entry, Keyed entity d op entry ∧ ¬ op.isNullary ∧ ¬ Given d.value?

/-- The fault is the format of a value or its absence. -/
def IsValueFault (fault : FilterFault) : Prop :=
  (∃ kind format, fault = .invalidValue kind format) ∨ ∃ op, fault = .missingValue op

section Codes

variable {fault : FilterFault}

theorem exists_of_code_misfit (code : fault.code = "INVALID_VALUE_FORMAT") :
    ∃ kind format, fault = .invalidValue kind format := by
  cases fault with
  | invalidValue kind format => exact ⟨kind, format, rfl⟩
  | _ => simp only [FilterFault.code, String.reduceEq] at code

theorem exists_of_code_missing (code : fault.code = "MISSING_VALUE") :
    ∃ op, fault = .missingValue op := by
  cases fault with
  | missingValue op => exact ⟨op, rfl⟩
  | _ => simp only [FilterFault.code, String.reduceEq] at code

theorem isValueFault_of_code (code : fault.code = "INVALID_VALUE_FORMAT" ∨ fault.code = "MISSING_VALUE") :
    IsValueFault fault :=
  code.imp exists_of_code_misfit exists_of_code_missing

theorem IsWholeFault.not_isValueFault (whole : IsWholeFault fault) : ¬ IsValueFault fault := by
  rcases whole with ⟨limit, rfl | rfl⟩ | ⟨error, rfl⟩ <;> rintro (⟨_, _, ⟨⟩⟩ | ⟨_, ⟨⟩⟩)

end Codes

section Descriptors

variable {intake : Intake} {encoding : Encoding} {zone : Zone} {limits : Limits} {entity : Entity}
  {d : Descriptor} {e : FilterError} {kind : ValueKind} {format : ValueFault}

/-- A descriptor is only refused for the format of a value that it gives, as it is decoded. -/
theorem exists_of_misfit (refused : intake.resolve entity d = .error e)
    (misfit : e.fault = .invalidValue kind format) :
    ∃ op field key? raw decoded, Passes entity d op field key? (some raw) ∧
      intake.decode field.kind raw = .ok decoded ∧
      field.kind.normalize field.choices decoded = .error format := by
  have outcome := resolves_resolve intake entity d
  rw [refused] at outcome
  cases outcome with
  | invalidValue passes decodes formatted =>
    cases misfit
    exact ⟨_, _, _, _, _, passes, decodes, formatted⟩
  | wrongKey _ key => rcases eq_of_checkKey_eq_error key with rfl | rfl <;> cases misfit
  | missingValue _ _ value =>
    cases eq_of_checkPresence_eq_error value
    cases misfit
  | _ => cases misfit

/-- The field of a value of the wrong format is none of free text. -/
theorem not_isFreeText_of_misfit (refused : (ofEncoding encoding zone limits).resolve entity d = .error e)
    (misfit : e.fault = .invalidValue kind format) :
    ∃ field, entity.field? d.field = some field ∧ ¬ field.kind.isFreeText ∧ format ≠ .empty := by
  obtain ⟨op, field, _, raw, decoded, passes, decodes, formatted⟩ := exists_of_misfit refused misfit
  have typed : ¬ field.kind.isFreeText := by
    intro free
    rw [ValueKind.eq_empty_of_normalize free formatted] at decodes
    obtain ⟨_, _, visible⟩ := checkPresence_eq_ok_some_iff.mp passes.present
    exact Encoding.decode_ne_empty free visible decodes
  refine ⟨field, passes.found, typed, ?_⟩
  rintro rfl
  exact typed (ValueKind.isFreeText_of_normalize formatted)

theorem not_onFreeText_of_misfit (refused : (ofEncoding encoding zone limits).resolve entity d = .error e)
    (code : e.code = "INVALID_VALUE_FORMAT") : ¬ OnFreeText entity d := by
  rintro ⟨entry, listed, name, free⟩
  obtain ⟨kind, format, misfit⟩ := exists_of_code_misfit code
  obtain ⟨field, found, typed, _⟩ := not_isFreeText_of_misfit refused misfit
  cases found.symm.trans (Entity.field?_eq_some_iff.mpr ⟨listed, name⟩)
  exact typed free

/-- A descriptor is refused for a missing value exactly if it lacks one. -/
theorem resolve_missingValue_iff :
    (∃ e, (ofEncoding encoding zone limits).resolve entity d = .error e ∧ e.code = "MISSING_VALUE") ↔
      LacksValue entity d := by
  constructor
  · rintro ⟨e, refused, code⟩
    rcases admitted_or_firstUnmet encoding zone entity d with admitted | ⟨code', unmet⟩
    · obtain ⟨f, resolved⟩ := exists_of_admitted admitted
      exact nomatch refused.symm.trans resolved
    obtain ⟨e', refused', same⟩ := exists_of_firstUnmet unmet
    cases refused.symm.trans refused'
    cases unmet with
    | value keyed needed absent => exact ⟨_, _, keyed, needed, absent⟩
    | _ => simp only [same, String.reduceEq] at code
  · rintro ⟨op, entry, keyed, needed, absent⟩
    exact exists_of_firstUnmet (.value keyed needed absent)

end Descriptors

/-! ## Items that give descriptors -/

/-- An item is resolved as the descriptor that it gives for an entity, and is not refused for a value
unless it gives one. -/
structure Judges {α : Type} (intake : Intake) (one : α → Except FilterError Filter)
    (gives : α → Entity → Descriptor → Prop) : Prop where
  resolves : ∀ {item entity d}, gives item entity d → one item = intake.resolve entity d
  given : ∀ {item e}, one item = .error e → IsValueFault e.fault → ∃ entity d, gives item entity d

/-- The item gives a descriptor for the entity that it names. -/
def GivesTagged (item : Json.Value) (entity : Entity) (d : Descriptor) : Prop :=
  ∃ name, Descriptor.taggedOfValue item = .ok (name, d) ∧ Entity.named? name = some entity

section Items

variable (intake : Intake) (entity : Entity)

theorem judges_resolveItem :
    Judges intake (intake.resolveItem entity)
      fun item entity' d => entity' = entity ∧ Descriptor.ofValue item = .ok d where
  resolves := by
    rintro item _ d ⟨rfl, form⟩
    rw [resolveItem, form]
  given := by
    intro item e refused value
    unfold resolveItem at refused
    split at refused
    · cases refused
      rcases value with ⟨_, _, ⟨⟩⟩ | ⟨_, ⟨⟩⟩
    · next d form => exact ⟨entity, d, rfl, form⟩

theorem judges_resolveTagged : Judges intake intake.resolveTagged GivesTagged where
  resolves := by
    rintro item entity d ⟨name, form, named⟩
    rw [resolveTagged, form]
    simp only [named]
  given := by
    intro item e refused value
    unfold resolveTagged at refused
    split at refused
    · cases refused
      rcases value with ⟨_, _, ⟨⟩⟩ | ⟨_, ⟨⟩⟩
    · next name d form =>
      split at refused
      · cases refused
        rcases value with ⟨_, _, ⟨⟩⟩ | ⟨_, ⟨⟩⟩
      · next entity named => exact ⟨entity, d, name, form, named⟩

theorem judges_resolve :
    Judges intake (intake.resolve entity) fun d entity' d' => entity' = entity ∧ d' = d where
  resolves := by
    rintro d _ _ ⟨rfl, rfl⟩
    rfl
  given := fun _ _ => ⟨_, _, rfl, rfl⟩

end Items

/-! ## Lists -/

/-- The result is a refusal of the item with an index, with a code. -/
def RefusedAt (code : String) (index : Nat) (result : Except FilterError (List Filter)) : Prop :=
  ∃ e, result = .error e ∧ e.code = code ∧ e.index? = some index

section Lists

variable {α : Type} {one : α → Except FilterError Filter} {items? : Except FilterError (List α)}
  {code : String} {index : Nat}

/-- An item is refused when all items before it give their filters. -/
theorem refusedAt_iff (whole : ∀ e, items? = .error e → e.index? = none) :
    RefusedAt code index (items?.bind (resolveAll one 0)) ↔
      ∃ front item back e, items? = .ok (front ++ item :: back) ∧ front.length = index ∧
        (∀ earlier ∈ front, ∃ filter, one earlier = .ok filter) ∧ one item = .error e ∧
        e.code = code := by
  constructor
  · rintro ⟨e, refused, code, located⟩
    cases items? with
    | error e' =>
      cases refused
      exact nomatch (whole _ rfl).symm.trans located
    | ok items =>
      obtain ⟨front, item, back, alone, rfl, before, refuses, rfl⟩ := exists_of_resolveAll_eq_error refused
      cases located
      exact ⟨front, item, back, alone, rfl, (Nat.zero_add _).symm, before, refuses, code⟩
  · rintro ⟨front, item, back, e, rfl, rfl, before, refuses, code⟩
    refine ⟨e.atIndex front.length, ?_, code, rfl⟩
    rw [Except.bind, resolveAll_of_refused before refuses, Nat.zero_add]

end Lists

/-- No refusal is for the format of a free text, or says that a value is empty. A refusal for a missing
value is that of the first item that is refused, and this item lacks a value. The items are those that a
list has when it is not refused as a whole. -/
structure ValueLaw {α : Type} (one : α → Except FilterError Filter)
    (gives : α → Entity → Descriptor → Prop) (items? : Except FilterError (List α))
    (result : Except FilterError (List Filter)) : Prop where
  located : ∀ {code}, code = "INVALID_VALUE_FORMAT" ∨ code = "MISSING_VALUE" → HasCode code result →
    ∃ index, RefusedAt code index result
  fits : ∀ {front item back entity d}, items? = .ok (front ++ item :: back) → gives item entity d →
    OnFreeText entity d → ¬ RefusedAt "INVALID_VALUE_FORMAT" front.length result
  filled : ∀ {e kind}, result = .error e → e.fault ≠ .invalidValue kind .empty
  missing : ∀ {front item back entity d}, items? = .ok (front ++ item :: back) → gives item entity d →
    (RefusedAt "MISSING_VALUE" front.length result ↔
      LacksValue entity d ∧ ∀ earlier ∈ front, ∃ filter, one earlier = .ok filter)
  missing_given : ∀ {index}, RefusedAt "MISSING_VALUE" index result →
    ∃ front item back entity d, items? = .ok (front ++ item :: back) ∧ front.length = index ∧
      gives item entity d

section Law

variable {α : Type} {encoding : Encoding} {zone : Zone} {limits : Limits}
  {one : α → Except FilterError Filter} {gives : α → Entity → Descriptor → Prop}
  {items? : Except FilterError (List α)}

/-- The item that is refused is the one with the index. -/
theorem refusedAt_length_iff (whole : ∀ e, items? = .error e → e.index? = none) {code : String}
    {front back : List α} {item : α} (items : items? = .ok (front ++ item :: back)) :
    RefusedAt code front.length (items?.bind (resolveAll one 0)) ↔
      (∃ e, one item = .error e ∧ e.code = code) ∧
        ∀ earlier ∈ front, ∃ filter, one earlier = .ok filter := by
  rw [refusedAt_iff whole]
  constructor
  · rintro ⟨front', item', back', e, items', length, before, refuses, code⟩
    have same := Except.ok.inj (items.symm.trans items')
    obtain ⟨rfl, rest⟩ := List.append_inj same length.symm
    cases rest
    exact ⟨⟨e, refuses, code⟩, before⟩
  · rintro ⟨⟨e, refuses, code⟩, before⟩
    exact ⟨front, item, back, e, items, rfl, before, refuses, code⟩

/-- A list that is only refused as a whole before its items are resolved is refused for a value as one of
its items is. -/
theorem exists_item_of_isValueFault {e : FilterError}
    (whole : ∀ e, items? = .error e → ∃ fault, e = .ofFault fault ∧ IsWholeFault fault)
    (refused : items?.bind (resolveAll one 0) = .error e) (value : IsValueFault e.fault) :
    ∃ front item back alone, items? = .ok (front ++ item :: back) ∧ one item = .error alone ∧
      e = alone.atIndex front.length := by
  cases items? with
  | error e' =>
    cases refused
    obtain ⟨fault, rfl, ofList⟩ := whole _ rfl
    exact absurd value ofList.not_isValueFault
  | ok items =>
    obtain ⟨front, item, back, alone, rfl, _, refuses, rfl⟩ := exists_of_resolveAll_eq_error refused
    rw [Nat.zero_add]
    exact ⟨front, item, back, alone, rfl, refuses, rfl⟩

/-- Items that are judged by the descriptors that they give follow the law of values. -/
theorem valueLaw_of_judges (judges : Judges (ofEncoding encoding zone limits) one gives)
    (whole : ∀ e, items? = .error e → ∃ fault, e = .ofFault fault ∧ IsWholeFault fault) :
    ValueLaw one gives items? (items?.bind (resolveAll one 0)) := by
  have unlocated : ∀ e, items? = .error e → e.index? = none := by
    intro e refused
    obtain ⟨fault, rfl, _⟩ := whole e refused
    rfl
  refine { located := ?_, fits := ?_, filled := ?_, missing := ?_, missing_given := ?_ }
  · intro code value hasCode
    obtain ⟨e, refused, rfl⟩ := hasCode
    obtain ⟨front, _, _, alone, _, _, rfl⟩ :=
      exists_item_of_isValueFault whole refused (isValueFault_of_code value)
    exact ⟨front.length, _, refused, rfl, rfl⟩
  · intro front item back entity d items given free misfit
    obtain ⟨⟨e, refuses, code⟩, _⟩ := (refusedAt_length_iff unlocated items).mp misfit
    rw [judges.resolves given] at refuses
    exact not_onFreeText_of_misfit refuses code free
  · intro e kind refused misfit
    have value : IsValueFault e.fault := .inl ⟨kind, .empty, misfit⟩
    obtain ⟨_, item, _, alone, _, refuses, rfl⟩ := exists_item_of_isValueFault whole refused value
    obtain ⟨entity, d, given⟩ := judges.given refuses value
    rw [judges.resolves given] at refuses
    obtain ⟨_, _, _, filled⟩ := not_isFreeText_of_misfit refuses misfit
    exact filled rfl
  · intro front item back entity d items given
    rw [refusedAt_length_iff unlocated items, judges.resolves given, resolve_missingValue_iff]
  · intro index refusedAt
    obtain ⟨e, refused, code, located⟩ := refusedAt
    have value := isValueFault_of_code (.inr code)
    obtain ⟨front, item, back, alone, items, refuses, rfl⟩ :=
      exists_item_of_isValueFault whole refused value
    obtain ⟨entity, d, given⟩ := judges.given refuses value
    exact ⟨front, item, back, entity, d, items, Option.some.inj located, given⟩

end Law

/-- A free text that is not blank is decoded to a text that is not empty, or not at all. So no descriptor
on a field of free text is refused for the format of its value, and descriptors are refused for a missing
value exactly if they lack one, in all three ways of taking in a list. -/
theorem free_text_never_misfits (encoding : Encoding) (zone : Zone) (limits : Limits) :
    let intake := ofEncoding encoding zone limits
    (∀ kind raw s, kind.isFreeText → (∃ c ∈ raw.toList, ¬ isBlankChar c) →
      encoding.decode zone kind raw = .ok s → s ≠ "") ∧
    (∀ entity text, ValueLaw (intake.resolveItem entity)
      (fun item entity' d => entity' = entity ∧ Descriptor.ofValue item = .ok d)
      (intake.readList text) (intake.parse entity text)) ∧
    (∀ text, ValueLaw intake.resolveTagged GivesTagged (intake.readList text)
      (intake.parseTagged text)) ∧
    ∀ entity descriptors, ValueLaw (intake.resolve entity)
      (fun d entity' d' => entity' = entity ∧ d' = d)
      (intake.checkCount descriptors) (intake.ofDescriptors entity descriptors) := by
  intro intake
  refine ⟨?_, fun entity text => ?_, fun text => ?_, fun entity descriptors => ?_⟩
  · rintro kind raw s free visible decodes rfl
    refine Encoding.decode_ne_empty free ?_ decodes
    rw [isBlank, List.all_eq_true]
    push Not
    exact visible
  · rw [parse_eq_bind]
    exact valueLaw_of_judges (judges_resolveItem intake entity) fun _ => exists_of_readList_eq_error
  · rw [parseTagged_eq_bind]
    exact valueLaw_of_judges (judges_resolveTagged intake) fun _ => exists_of_readList_eq_error
  · rw [ofDescriptors_eq_bind]
    exact valueLaw_of_judges (judges_resolve intake entity) fun _ => exists_of_checkCount_eq_error

/-- A padded letter with blanks around it, and a blank value behind it. -/
theorem free_text_never_misfits_of_padding :
    let intake := ofEncoding .base64 ⟨"UTC", 0, []⟩ .standard
    let text := "[[\"name\",\"=\",null,\" QQ== \"],[\"metadata\",\"contains\",\"stage\",\" \"]]"
    let letter : Json.Value := .array [.string "name", .string "=", .null, .string " QQ== "]
    let blank : Json.Value :=
      .array [.string "metadata", .string "contains", .string "stage", .string " "]
    ((∃ c ∈ " QQ== ".toList, ¬ isBlankChar c) ∧
      Encoding.base64.decode ⟨"UTC", 0, []⟩ .string " QQ== " = .ok "A" ∧ "A" ≠ "") ∧
    intake.readList text = .ok [letter, blank] ∧
      OnFreeText .traces ⟨"name", "=", none, some " QQ== "⟩ ∧
      ¬ RefusedAt "INVALID_VALUE_FORMAT" 0 (intake.parse .traces text) ∧
      LacksValue .traces ⟨"metadata", "contains", some "stage", some " "⟩ ∧
      RefusedAt "MISSING_VALUE" 1 (intake.parse .traces text) := by
  intro intake text letter blank
  obtain ⟨filled, ofText, _⟩ := free_text_never_misfits .base64 ⟨"UTC", 0, []⟩ .standard
  have law := ofText .traces text
  have decodes : Encoding.base64.decode ⟨"UTC", 0, []⟩ .string " QQ== " = .ok "A" := by decide +kernel
  have visible : ∃ c ∈ " QQ== ".toList, ¬ isBlankChar c :=
    ⟨'Q', List.mem_cons_of_mem _ List.mem_cons_self, by decide⟩
  have list : intake.readList text = .ok [letter, blank] := by
    subst intake text letter blank
    rfl
  have free : OnFreeText .traces ⟨"name", "=", none, some " QQ== "⟩ :=
    ⟨⟨"name", .string, []⟩, by decide +kernel, by decide +kernel, rfl⟩
  have lacks : LacksValue .traces ⟨"metadata", "contains", some "stage", some " "⟩ := by
    have refused : intake.resolve .traces ⟨"metadata", "contains", some "stage", some " "⟩ =
        .error (.onField "metadata" (.missingValue .contains)) := by
      subst intake
      decide +kernel
    exact resolve_missingValue_iff.mp ⟨_, refused, rfl⟩
  have first : ∀ earlier ∈ [letter], ∃ filter, intake.resolveItem .traces earlier = .ok filter := by
    have resolved : intake.resolveItem .traces letter =
        .ok ⟨.traces, ⟨"name", .string, []⟩, .equal, none, some "A"⟩ := by
      subst intake letter
      decide +kernel
    rw [List.forall_mem_singleton]
    exact ⟨_, resolved⟩
  exact ⟨⟨visible, decodes, filled .string _ _ rfl visible decodes⟩, list, free,
    @ValueLaw.fits _ _ _ _ _ law [] letter [blank] _ _ list ⟨rfl, rfl⟩ free, lacks,
    (@ValueLaw.missing _ _ _ _ _ law [letter] blank [] _ _ list ⟨rfl, rfl⟩).mpr ⟨lacks, first⟩⟩

end Intake

end TypedFilters
