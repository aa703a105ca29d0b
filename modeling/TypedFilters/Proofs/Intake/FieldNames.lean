import TypedFilters.Proofs.Descriptor.Forms
import TypedFilters.Proofs.Intake.Agreement

/-!
# The field that a refusal shows

A list that passes the checks of the list as a whole is refused at one of its items, and the refusal has
the index of this item. If a text of the item names a field of its entity, the refusal also shows this field
(`refused_field_shown`): under its own name if the field has been looked up, and as it was written if the
item has not the form of a descriptor or its operator is unknown (`shownName`). The two differ where the text
has blanks around the name (`blanks_shown_with_unknown_operator`).
-/

namespace TypedFilters.Intake

open Json (Value)

/-! ## Refused items -/

/-- The name under which a refusal shows a field that a text names. -/
def shownName (written : String) (field : Field) : FilterFault → String
  | .invalidJson _ | .unknownOperator _ => written
  | _ => field.name

/-- The refusal is the one of an item, with the index of this item, and it shows the field that a text of
the item names. `names` tells which texts of an item name which fields. -/
def RefusesItem {α : Type} (one : α → Except FilterError Filter) (names : α → String → Field → Prop)
    (items : List α) (e : FilterError) : Prop :=
  ∃ index item alone, items[index]? = some item ∧ one item = .error alone ∧ e = alone.atIndex index ∧
    ∀ written field, names item written field → e.field? = some (shownName written field e.fault)

/-- A descriptor names a field of an entity. -/
def NamesField (entity : Entity) (d : Descriptor) (written : String) (field : Field) : Prop :=
  d.field = written ∧ entity.field? written = some field

/-- An item of a text has a text for the field of its descriptor, whether it gives a descriptor or not. -/
def HasFieldText (item : Value) (written : String) : Prop :=
  item.member? "field" = some (.string written) ∨
    ∃ d, Descriptor.ofValue item = .ok d ∧ d.field = written

/-- An item of a text names a field of an entity. -/
def ItemNamesField (entity : Entity) (item : Value) (written : String) (field : Field) : Prop :=
  HasFieldText item written ∧ entity.field? written = some field

/-- An item of a text names an entity and a field of this entity. -/
def ItemNamesTaggedField (item : Value) (written : String) (field : Field) : Prop :=
  ∃ name entity, item.member? "entity" = some (.string name) ∧ Entity.named? name = some entity ∧
    ItemNamesField entity item written field

section Items

variable {intake : Intake} {entity : Entity} {item : Value} {d : Descriptor} {e : FilterError}
  {written : String} {field : Field}

/-- A descriptor is refused under the name of its field once the field has been looked up, and before that
under its text. -/
theorem field?_of_resolve (refused : intake.resolve entity d = .error e)
    (found : entity.field? d.field = some field) : e.field? = some (shownName d.field field e.fault) := by
  have outcome := resolves_resolve intake entity d
  rw [refused] at outcome
  cases outcome with
  | unknownOperator => rfl
  | unknownField _ unknown => cases found.symm.trans unknown
  | unsupported _ found' =>
    cases found.symm.trans found'
    rfl
  | wrongKey selects key =>
    cases found.symm.trans selects.found
    rcases eq_of_checkKey_eq_error key with rfl | rfl <;> rfl
  | missingValue selects _ value =>
    cases found.symm.trans selects.found
    cases eq_of_checkPresence_eq_error value
    rfl
  | undecodable passes =>
    cases found.symm.trans passes.found
    rfl
  | invalidValue passes =>
    cases found.symm.trans passes.found
    rfl

theorem isObject_of_member {name : String} {v : Value} (member : item.member? name = some v) :
    item.IsObject := by
  cases item with
  | object ms => exact ⟨ms, rfl⟩
  | _ => cases member

theorem field?_misshapen (member : item.member? "field" = some (.string written)) (fault : Json.ShapeFault) :
    (misshapen item fault).field? = some written := by
  rw [misshapen, member]
  rfl

/-- An object that gives a descriptor gives it the text of its member. -/
theorem field_eq_of_describes (member : item.member? "field" = some (.string written))
    (describes : Descriptor.Describes (Descriptor.given item) d) : d.field = written := by
  have given : Descriptor.given item "field" = item.member? "field" := by
    rcases isObject_of_member member with ⟨ms, rfl⟩
    rfl
  cases (given.trans member).symm.trans describes.field
  rfl

theorem field_eq_of_ofValue (read : item.IsRead) (form : Descriptor.ofValue item = .ok d)
    (text : HasFieldText item written) : d.field = written := by
  rcases text with member | ⟨d', form', text⟩
  · exact field_eq_of_describes member ((Descriptor.ofValue_eq_ok_iff read).mp form)
  · cases form.symm.trans form'
    exact text

theorem field?_of_resolveItem (read : item.IsRead) (refused : intake.resolveItem entity item = .error e)
    (named : ItemNamesField entity item written field) :
    e.field? = some (shownName written field e.fault) := by
  rcases named with ⟨text, found⟩
  unfold resolveItem at refused
  split at refused
  · next fault form =>
    cases refused
    rcases text with member | ⟨d, form', _⟩
    · exact field?_misshapen member _
    · cases form.symm.trans form'
  · next d form =>
    rw [← field_eq_of_ofValue read form text] at found ⊢
    exact field?_of_resolve refused found

theorem field?_of_resolveTagged (read : item.IsRead) (refused : intake.resolveTagged item = .error e)
    (named : ItemNamesTaggedField item written field) :
    e.field? = some (shownName written field e.fault) := by
  rcases named with ⟨name, entity, tag, known, text, found⟩
  unfold resolveTagged at refused
  split at refused
  · next fault form =>
    cases refused
    rcases text with member | ⟨d, given, _⟩
    · exact field?_misshapen member _
    · -- Only objects have members, so with an entity the item gives a tagged descriptor as well.
      have object : item.IsObject := isObject_of_member tag
      have form' : Descriptor.taggedOfValue item = .ok (name, d) :=
        (Descriptor.taggedOfValue_eq_ok_iff read).mpr
          ⟨object, tag, (Descriptor.ofValue_eq_ok_iff read).mp given⟩
      cases form.symm.trans form'
  · next name' d form =>
    obtain ⟨object, tag', describes⟩ := (Descriptor.taggedOfValue_eq_ok_iff read).mp form
    cases tag.symm.trans tag'
    rw [known] at refused
    have given : Descriptor.ofValue item = .ok d := (Descriptor.ofValue_eq_ok_iff read).mpr describes
    rw [← field_eq_of_ofValue read given text] at found ⊢
    exact field?_of_resolve refused found

end Items

/-! ## Refused lists -/

section Lists

variable {α : Type} {one : α → Except FilterError Filter} {names : α → String → Field → Prop}
  {items : List α} {e : FilterError}

/-- Items that are refused under the names of their fields refuse their list so. -/
theorem refusesItem_of_resolveAll
    (each : ∀ item ∈ items, ∀ {e written field}, one item = .error e → names item written field →
      e.field? = some (shownName written field e.fault))
    (refused : resolveAll one 0 items = .error e) : RefusesItem one names items e := by
  obtain ⟨front, item, back, alone, rfl, _, refuses, rfl⟩ := exists_of_resolveAll_eq_error refused
  rw [Nat.zero_add]
  refine ⟨front.length, item, alone, ?_, refuses, rfl, ?_⟩
  · rw [List.getElem?_append_right (Nat.le_refl _), Nat.sub_self]
    rfl
  · intro written field named
    have shown : alone.field? = some (shownName written field alone.fault) :=
      each item (List.mem_append_right _ List.mem_cons_self) refuses named
    exact shown

/-- The items of a text that is not refused as a whole are values that are read. -/
theorem isRead_of_readList {intake : Intake} {text : String} {items : List Value}
    (list : intake.readList text = .ok items) : ∀ item ∈ items, item.IsRead :=
  fun item inList => (Json.isRead_of_document (document_of_mem_readList list inList)).item item inList

end Lists

/-- A list that passes the checks of the list as a whole is refused at one of its items, with the index of
this item. If the item names a field of its entity, with whatever blanks around, the refusal shows this
field, as it is written if the item has not the form of a descriptor or its operator is unknown, and under
its own name in all other cases. -/
theorem refused_field_shown (intake : Intake) (entity : Entity) (e : FilterError) :
    (∀ text items, intake.readList text = .ok items → intake.parse entity text = .error e →
      RefusesItem (intake.resolveItem entity) (ItemNamesField entity) items e) ∧
    (∀ text items, intake.readList text = .ok items → intake.parseTagged text = .error e →
      RefusesItem intake.resolveTagged ItemNamesTaggedField items e) ∧
    ∀ descriptors : List Descriptor, descriptors.length ≤ intake.limits.maxFilters →
      intake.ofDescriptors entity descriptors = .error e →
        RefusesItem (intake.resolve entity) (NamesField entity) descriptors e := by
  refine ⟨?_, ?_, ?_⟩
  · intro text items list refused
    rw [parse_eq_bind, list] at refused
    refine refusesItem_of_resolveAll ?_ refused
    intro item member _ _ _ alone named
    exact field?_of_resolveItem (isRead_of_readList list item member) alone named
  · intro text items list refused
    rw [parseTagged_eq_bind, list] at refused
    refine refusesItem_of_resolveAll ?_ refused
    intro item member _ _ _ alone named
    exact field?_of_resolveTagged (isRead_of_readList list item member) alone named
  · intro descriptors few refused
    rw [ofDescriptors_eq_bind, checkCount_eq_ok_iff.mpr ⟨few, rfl⟩] at refused
    refine refusesItem_of_resolveAll ?_ refused
    intro d _ _ _ _ alone named
    rcases named with ⟨rfl, found⟩
    exact field?_of_resolve alone found

/-- A number is asked to contain a text; the blanks around its field are not shown, in whichever way the
list is given. -/
theorem refused_field_shown_of_duration :
    let intake := ofEncoding .plain ⟨"UTC", 0, []⟩ .standard
    let text := "[\x7b\"entity\":\"traces\",\"field\":\" duration \",\"operator\":\"contains\"\x7d]"
    let item : Value := .object
      [("entity", .string "traces"), ("field", .string " duration "), ("operator", .string "contains")]
    let d : Descriptor := ⟨" duration ", "contains", none, none⟩
    let e : FilterError := ⟨.unsupportedOperator .contains .number, some 0, some "duration"⟩
    intake.readList text = .ok [item] ∧
      RefusesItem (intake.resolveItem .traces) (ItemNamesField .traces) [item] e ∧
      RefusesItem intake.resolveTagged ItemNamesTaggedField [item] e ∧
      RefusesItem (intake.resolve .traces) (NamesField .traces) [d] e := by
  intro intake text item d e
  have list : intake.readList text = .ok [item] := by
    subst intake text item
    rfl
  have parsed : intake.parse .traces text = .error e := by
    subst intake text e
    decide +kernel
  have tagged : intake.parseTagged text = .error e := by
    subst intake text e
    decide +kernel
  have given : intake.ofDescriptors .traces [d] = .error e := by
    subst intake d e
    decide +kernel
  obtain ⟨ofText, ofTagged, ofGiven⟩ := refused_field_shown intake .traces e
  exact ⟨list, ofText text _ list parsed, ofTagged text _ list tagged, ofGiven [d] (by decide) given⟩

/-- The blanks around the name of a field are shown if the operator is unknown. -/
theorem blanks_shown_with_unknown_operator :
    let intake := ofEncoding .plain ⟨"UTC", 0, []⟩ .standard
    let text := "[\x7b\"field\":\" name \",\"operator\":\"nope\"\x7d]"
    ∃ field e, Entity.traces.field? " name " = some field ∧
      intake.readList text = .ok [.object [("field", .string " name "), ("operator", .string "nope")]] ∧
      intake.parse .traces text = .error e ∧ e.index? = some 0 ∧ e.field? ≠ some field.name := by
  intro intake text
  refine ⟨⟨"name", .string, []⟩, ⟨.unknownOperator "nope", some 0, some " name "⟩, ?_, ?_, ?_, rfl, ?_⟩
  · decide +kernel
  · subst intake text
    rfl
  · subst intake text
    decide +kernel
  · decide

end TypedFilters.Intake
