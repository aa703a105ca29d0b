import TypedFilters.Proofs.Descriptor.Forms
import TypedFilters.Proofs.Intake.Agreement

/-!
# The forms of the items that are accepted

A list is only accepted if each of its items has the form of a descriptor. Without the names of entities such
an item may be an array as well as an object (`HasForm`); with them it is an object that also names its entity
(`HasTaggedForm`). An item of any other form is refused for its form, with its index, when it is its turn
(`accepted_forms`).
-/

namespace TypedFilters.Intake

open Json (Value)
open Descriptor (given WellFormed)

/-- The form of a descriptor: an object, or an array of two to four items, with well-formed parts. -/
structure HasForm (item : Value) : Prop where
  shape : item.IsObject ∨ ∃ vs, item = .array vs ∧ 2 ≤ vs.length ∧ vs.length ≤ 4
  parts : WellFormed (given item)

/-- The form of a tagged descriptor: an object that names an entity, with well-formed parts. -/
structure HasTaggedForm (item : Value) : Prop where
  object : item.IsObject
  entity : ∃ name, item.member? "entity" = some (.string name)
  parts : WellFormed (given item)

/-- The result is the refusal of the item at an index for its form. -/
def RefusedForForm (index : Nat) (result : Except FilterError (List Filter)) : Prop :=
  ∃ e, result = .error e ∧ e.code = "INVALID_FILTER_JSON" ∧ e.index? = some index

section Items

variable {intake : Intake} {entity : Entity} {item : Value} {f : Filter}

/-- Only an object and an array of two to four items give the parts of a descriptor. -/
theorem hasForm_iff : HasForm item ↔ WellFormed (given item) := by
  refine ⟨HasForm.parts, fun parts => ⟨?_, parts⟩⟩
  obtain ⟨_, hasField⟩ := parts.field
  obtain ⟨_, hasOperator⟩ := parts.operator
  cases item with
  | object ms => exact .inl ⟨ms, rfl⟩
  | array vs =>
    refine .inr ⟨vs, rfl, ?_⟩
    by_cases short : vs.length ≤ Descriptor.memberNames.length
    · rcases vs with _ | ⟨_, _ | ⟨_, rest⟩⟩
      · cases hasField
      · cases hasOperator
      · exact ⟨by simp only [List.length_cons]; omega, short⟩
    · rw [Descriptor.given_array_eq_none (Nat.not_le.mp short)] at hasField
      cases hasField
  | _ => cases hasField

theorem exists_ofValue_iff_hasForm (read : item.IsRead) :
    (∃ d, Descriptor.ofValue item = .ok d) ↔ HasForm item := by
  rw [Descriptor.exists_ofValue_iff read, hasForm_iff]

theorem exists_taggedOfValue_iff_hasTaggedForm (read : item.IsRead) :
    (∃ tagged, Descriptor.taggedOfValue item = .ok tagged) ↔ HasTaggedForm item := by
  simp only [Prod.exists, Descriptor.taggedOfValue_eq_ok_iff read]
  constructor
  · rintro ⟨name, d, object, entity, describes⟩
    exact ⟨object, ⟨name, entity⟩, Descriptor.exists_describes_iff.mp ⟨d, describes⟩⟩
  · rintro ⟨object, ⟨name, entity⟩, parts⟩
    obtain ⟨d, describes⟩ := Descriptor.exists_describes_iff.mpr parts
    exact ⟨name, d, object, entity, describes⟩

theorem hasForm_of_resolveItem (read : item.IsRead) (resolved : intake.resolveItem entity item = .ok f) :
    HasForm item := by
  rw [← exists_ofValue_iff_hasForm read]
  unfold resolveItem at resolved
  split at resolved
  · cases resolved
  · next d form => exact ⟨d, form⟩

theorem hasTaggedForm_of_resolveTagged (read : item.IsRead) (resolved : intake.resolveTagged item = .ok f) :
    HasTaggedForm item := by
  rw [← exists_taggedOfValue_iff_hasTaggedForm read]
  obtain ⟨name, d, _, form, _⟩ := exists_of_resolveTagged_eq_ok resolved
  exact ⟨(name, d), form⟩

theorem exists_misshapen_of_resolveItem (read : item.IsRead) (other : ¬ HasForm item) :
    ∃ fault, intake.resolveItem entity item = .error (misshapen item fault) := by
  rw [← exists_ofValue_iff_hasForm read] at other
  unfold resolveItem
  cases form : Descriptor.ofValue item with
  | error fault => exact ⟨fault, rfl⟩
  | ok d => exact absurd ⟨d, form⟩ other

theorem exists_misshapen_of_resolveTagged (read : item.IsRead) (other : ¬ HasTaggedForm item) :
    ∃ fault, intake.resolveTagged item = .error (misshapen item fault) := by
  rw [← exists_taggedOfValue_iff_hasTaggedForm read] at other
  unfold resolveTagged
  cases form : Descriptor.taggedOfValue item with
  | error fault => exact ⟨fault, rfl⟩
  | ok tagged => exact absurd ⟨tagged, form⟩ other

end Items

/-! ## Whole lists -/

section Lists

variable {intake : Intake} {one : Value → Except FilterError Filter} {text : String}

/-- The items of a text that is not blank and is accepted are those of the array that it is, and have what
every item has that gives a filter. -/
theorem exists_items_of_accepted {P : Value → Prop} {items : List Value} {filters : List Filter}
    (nonblank : ¬ Text.isBlank text) (list : intake.readList text = .ok items)
    (each : List.Forall₂ (fun item f => one item = .ok f) items filters)
    (sound : ∀ {item f}, item.IsRead → one item = .ok f → P item) :
    ∃ items, Json.document text = .ok (.array items) ∧ ∀ item ∈ items, P item := by
  have array := (readList_eq_ok_iff.mp list).2.1
  rw [ItemsOf, if_neg nonblank] at array
  have read := (Json.isRead_of_document array).item
  refine ⟨items, array, ?_⟩
  clear list array
  induction each with
  | nil => exact List.forall_mem_nil _
  | cons resolved _ ih =>
    rw [List.forall_mem_cons] at read ⊢
    exact ⟨sound read.1 resolved, ih read.2⟩

/-- The first item that is refused for its form decides. -/
theorem refusedForForm_of_misshapen {front back : List Value} {item : Value} {fault : Json.ShapeFault}
    (array : Json.document text = .ok (.array (front ++ item :: back)))
    (size : text.utf8ByteSize ≤ intake.limits.maxJsonBytes)
    (count : (front ++ item :: back).length ≤ intake.limits.maxFilters)
    (before : ∀ earlier ∈ front, ∃ f, one earlier = .ok f) (alone : one item = .error (misshapen item fault)) :
    RefusedForForm front.length ((intake.readList text).bind (resolveAll one 0)) := by
  rw [readList_eq_checkCount size array, checkCount_eq_ok_iff.mpr ⟨count, rfl⟩]
  simp only [Except.bind]
  rw [resolveAll_of_refused before alone, Nat.zero_add]
  exact ⟨_, rfl, rfl, rfl⟩

end Lists

/-- Each item of an accepted list has the form of a descriptor, and with the names of entities that of a tagged
descriptor. An item of another form is refused for its form if the list exceeds no limit and all items before
it give filters. -/
theorem accepted_forms (intake : Intake) (entity : Entity) (text : String) :
    (∀ filters, ¬ Text.isBlank text → intake.parse entity text = .ok filters →
      ∃ items, Json.document text = .ok (.array items) ∧ ∀ item ∈ items, HasForm item) ∧
    (∀ filters, ¬ Text.isBlank text → intake.parseTagged text = .ok filters →
      ∃ items, Json.document text = .ok (.array items) ∧ ∀ item ∈ items, HasTaggedForm item) ∧
    ∀ front item back, Json.document text = .ok (.array (front ++ item :: back)) →
      text.utf8ByteSize ≤ intake.limits.maxJsonBytes →
      (front ++ item :: back).length ≤ intake.limits.maxFilters →
        ((∀ earlier ∈ front, ∃ f, intake.resolveItem entity earlier = .ok f) → ¬ HasForm item →
          RefusedForForm front.length (intake.parse entity text)) ∧
        ((∀ earlier ∈ front, ∃ f, intake.resolveTagged earlier = .ok f) → ¬ HasTaggedForm item →
          RefusedForForm front.length (intake.parseTagged text)) := by
  refine ⟨?_, ?_, ?_⟩
  · intro filters nonblank accepted
    obtain ⟨items, list, each⟩ := parse_eq_ok_iff.mp accepted
    exact exists_items_of_accepted nonblank list each hasForm_of_resolveItem
  · intro filters nonblank accepted
    obtain ⟨items, list, each⟩ := parseTagged_eq_ok_iff.mp accepted
    exact exists_items_of_accepted nonblank list each hasTaggedForm_of_resolveTagged
  · intro front item back array size count
    have read : item.IsRead :=
      (Json.isRead_of_document array).item item (List.mem_append_right _ List.mem_cons_self)
    rw [parse_eq_bind, parseTagged_eq_bind]
    constructor
    · intro before other
      obtain ⟨fault, alone⟩ := exists_misshapen_of_resolveItem read other
      exact refusedForForm_of_misshapen array size count before alone
    · intro before other
      obtain ⟨fault, alone⟩ := exists_misshapen_of_resolveTagged read other
      exact refusedForForm_of_misshapen array size count before alone

/-- An object and an array give filters, and the number behind them is refused for its form. -/
theorem accepted_forms_of_object_and_array :
    let intake := ofEncoding .plain ⟨"UTC", 0, []⟩ .standard
    let accepted := "[\x7b\"field\":\"name\",\"operator\":\"is_empty\"\x7d,[\"name\",\"is_empty\"]]"
    let refused := "[\x7b\"field\":\"name\",\"operator\":\"is_empty\"\x7d,[\"name\",\"is_empty\"],7]"
    let f : Filter := ⟨.traces, ⟨"name", .string, []⟩, .isEmpty, none, none⟩
    (intake.parse .traces accepted = .ok [f, f] ∧
        ∃ items, Json.document accepted = .ok (.array items) ∧ ∀ item ∈ items, HasForm item) ∧
      RefusedForForm 2 (intake.parse .traces refused) ∧ RefusedForForm 0 (intake.parseTagged refused) := by
  intro intake accepted refused f
  have parsed : intake.parse .traces accepted = .ok [f, f] := by decide +kernel
  have nonblank : ¬ Text.isBlank accepted := by decide +kernel
  let object : Value := .object [("field", .string "name"), ("operator", .string "is_empty")]
  let list : Value := .array [.string "name", .string "is_empty"]
  have array : Json.document refused = .ok (.array [object, list, .number (.integer 7)]) := by
    subst refused object list
    rfl
  have size : refused.utf8ByteSize ≤ intake.limits.maxJsonBytes := by decide +kernel
  have count : [object, list, .number (.integer 7)].length ≤ intake.limits.maxFilters := by decide
  have each : ∀ item ∈ [object, list], ∃ f, intake.resolveItem .traces item = .ok f := by
    have first : intake.resolveItem .traces object = .ok f := by decide +kernel
    have second : intake.resolveItem .traces list = .ok f := by decide +kernel
    simp only [List.forall_mem_cons]
    exact ⟨⟨f, first⟩, ⟨f, second⟩, List.forall_mem_nil _⟩
  have number : ¬ HasForm (.number (.integer 7)) := by
    intro form
    obtain ⟨_, given⟩ := form.parts.field
    cases given
  have unnamed : ¬ HasTaggedForm object := by
    intro form
    obtain ⟨_, named⟩ := form.entity
    cases named
  obtain ⟨forms, _, _⟩ := accepted_forms intake .traces accepted
  obtain ⟨_, _, misshapen⟩ := accepted_forms intake .traces refused
  exact ⟨⟨parsed, forms [f, f] nonblank parsed⟩,
    (misshapen [object, list] _ [] array size count).1 each number,
    (misshapen [] object [list, .number (.integer 7)] array size count).2 (List.forall_mem_nil _) unnamed⟩

/-- An array is taken for a descriptor, though not where entities are named. -/
theorem array_taken_for_descriptor :
    let intake := ofEncoding .plain ⟨"UTC", 0, []⟩ .standard
    let text := "[[\"name\",\"is_empty\"]]"
    Json.document text = .ok (.array [.array [.string "name", .string "is_empty"]]) ∧
      intake.parse .traces text = .ok [⟨.traces, ⟨"name", .string, []⟩, .isEmpty, none, none⟩] ∧
      RefusedForForm 0 (intake.parseTagged text) := by
  intro intake text
  have chars : text.toList =
      ['[', '[', '"', 'n', 'a', 'm', 'e', '"', ',', '"', 'i', 's', '_', 'e', 'm', 'p', 't', 'y', '"', ']', ']'] := by
    decide
  have array : Json.document text = .ok (.array [.array [.string "name", .string "is_empty"]]) := by
    refine Json.whole_eq_ok_iff.mpr ⟨[], ?_, rfl⟩
    rw [chars]
    rfl
  have refused : intake.parseTagged text =
      .error ⟨.invalidJson ⟨.shape (.wrongType .array "struct TaggedRawFilter"), none⟩, some 0, none⟩ := by
    decide +kernel
  exact ⟨array, by decide +kernel, _, refused, rfl, rfl⟩

end TypedFilters.Intake
