import TypedFilters.Proofs.Descriptor
import TypedFilters.Proofs.Intake.Batch

/-!
# The ways of taking in a list agree

A text that is an array of objects is taken in as the descriptors that its objects give: of each object
the last members of the four names decide, and nothing else that is written (`parse_eq_ofDescriptors`).
A text of filters that name their entities is taken in like the same text without these names, as far as
one entity is named (`parse_alike_parseTagged`). Here objects need not give descriptors: a refusal then
may be worded otherwise, but it has the same code at the same place (`Alike`).
-/

namespace TypedFilters.Intake

open Descriptor (Describes)
open Json (Value last? collect collected)

/-! ## Arrays of objects -/

section Arrays

variable {intake : Intake} {text : String} {items : List Value}

/-- A text that is an array is not blank: it has a bracket. -/
theorem not_isBlank_of_array (array : Json.document text = .ok (.array items)) :
    ¬ Text.isBlank text := by
  intro blank
  obtain ⟨rest, read, _⟩ := Json.whole_eq_ok_iff.mp array
  refine Json.value_ne_array (fun after front => ?_) read
  have bracket : '[' ∈ text.toList := by
    apply (List.dropWhile_sublist Json.isSpace).subset
    rw [← Json.skipSpace, front]
    exact List.mem_cons_self
  have blankBracket := List.all_eq_true.mp blank _ bracket
  exact absurd blankBracket (by decide)

/-- The items of an array within the limit on the text are only counted. -/
theorem readList_eq_checkCount (size : text.utf8ByteSize ≤ intake.limits.maxJsonBytes)
    (array : Json.document text = .ok (.array items)) :
    intake.readList text = intake.checkCount items := by
  rw [readList, if_neg (Nat.not_lt.mpr size), if_neg (not_isBlank_of_array array),
    whole_arrayItems_eq_ok_iff.mpr array]

end Arrays

/-! ## Texts and descriptors -/

/-- The last values of the four names of a descriptor are the same. -/
def SameParts (ms ms' : List (String × Value)) : Prop :=
  ∀ name ∈ Descriptor.memberNames, last? ms' name = last? ms name

section Descriptors

variable {intake : Intake} {entity : Entity} {text : String} {ms ms' : List (String × Value)}
  {mss mss' : List (List (String × Value))} {d : Descriptor} {descriptors : List Descriptor}

theorem SameParts.describes_iff (same : SameParts ms ms') :
    Describes (last? ms') d ↔ Describes (last? ms) d := by
  constructor
  · intro describes
    exact describes.of_same fun name part => (same name part).symm
  · intro describes
    exact describes.of_same same

/-- Objects with the same parts give the same descriptors. -/
theorem describe_of_same (same : List.Forall₂ SameParts mss mss')
    (describe : List.Forall₂ (fun ms d => Describes (last? ms) d) mss descriptors) :
    List.Forall₂ (fun ms d => Describes (last? ms) d) mss' descriptors := by
  induction same generalizing descriptors with
  | nil => exact describe
  | cons parts _ ih =>
    rcases describe with _ | ⟨describes, describe⟩
    exact .cons (parts.describes_iff.mpr describes) (ih describe)

theorem resolveItem_of_describes (describes : Describes (last? ms) d) :
    intake.resolveItem entity (collected ms) = intake.resolve entity d := by
  have given : Descriptor.ofValue (collected ms) = .ok d :=
    Descriptor.ofMembers_collect_eq_ok_iff.mpr describes
  rw [resolveItem, given]

theorem parse_eq_of_describes (size : text.utf8ByteSize ≤ intake.limits.maxJsonBytes)
    (objects : Json.objects text = .ok mss)
    (describe : List.Forall₂ (fun ms d => Describes (last? ms) d) mss descriptors) :
    intake.parse entity text = intake.ofDescriptors entity descriptors := by
  have array : Json.document text = .ok (.array (mss.map collected)) :=
    (Json.document_eq_array_iff.mpr ⟨mss, objects, rfl⟩).1
  rw [parse_eq_bind, readList_eq_checkCount size array, ofDescriptors_eq_bind]
  apply bind_checkCount_eq_of_each rfl
  rw [List.forall₂_map_right_iff]
  exact describe.flip.imp fun d ms describes => resolveItem_of_describes describes

end Descriptors

/-- A text that is read as an array of objects is taken in as the descriptors that the last members of
its objects describe, with the same filters or the same refusal. So it is taken in like every other such
text whose objects have the same last members of the four names: neither their order nor earlier members
of one of these names nor members of other names matter. -/
theorem parse_eq_ofDescriptors (intake : Intake) (entity : Entity) (text : String)
    (items : List Value) (size : text.utf8ByteSize ≤ intake.limits.maxJsonBytes)
    (array : Json.document text = .ok (.array items)) (objects : ∀ item ∈ items, item.IsObject) :
    ∃ mss, Json.objects text = .ok mss ∧ mss.map collected = items ∧
      ∀ descriptors, List.Forall₂ (fun ms d => Describes (last? ms) d) mss descriptors →
        intake.parse entity text = intake.ofDescriptors entity descriptors ∧
          ∀ text' mss', text'.utf8ByteSize ≤ intake.limits.maxJsonBytes →
            Json.objects text' = .ok mss' → List.Forall₂ SameParts mss mss' →
              intake.parse entity text' = intake.parse entity text := by
  obtain ⟨mss, read, collects⟩ := Json.document_eq_array_iff.mp ⟨array, objects⟩
  refine ⟨mss, read, collects, ?_⟩
  intro descriptors describe
  have taken : intake.parse entity text = intake.ofDescriptors entity descriptors :=
    parse_eq_of_describes size read describe
  refine ⟨taken, ?_⟩
  intro text' mss' size' read' same
  rw [taken, parse_eq_of_describes size' read' (describe_of_same same describe)]

/-- A value is given twice, the second time as a number, and a member that nobody asks for stands
between; another text gives the same parts in another order. -/
theorem parse_eq_ofDescriptors_of_duration :
    let intake := ofEncoding .plain ⟨"UTC", 0, []⟩ ⟨1, 70⟩
    let text := "[\x7b\"value\":[],\"x\":[\x7b\x7d],\"field\":\"duration\",\"value\":20,\"operator\":\">\"\x7d]"
    let text' := "[\x7b\"operator\":\">\",\"field\":\"duration\",\"value\":20\x7d]"
    text.utf8ByteSize ≤ intake.limits.maxJsonBytes ∧
      intake.parse .traces text =
        intake.ofDescriptors .traces [⟨"duration", ">", none, some "20"⟩] ∧
      intake.parse .traces text' = intake.parse .traces text ∧
      intake.parse .traces text' = .ok [⟨.traces, ⟨"duration", .number, []⟩, .greater, none, some "20"⟩] := by
  intro intake text text'
  let members : List (String × Value) :=
    [("value", .array []), ("x", .array [.object []]), ("field", .string "duration"),
      ("value", .number (.integer 20)), ("operator", .string ">")]
  let members' : List (String × Value) :=
    [("operator", .string ">"), ("field", .string "duration"), ("value", .number (.integer 20))]
  have size : text.utf8ByteSize ≤ intake.limits.maxJsonBytes := by decide +kernel
  have array : Json.document text = .ok (.array [collected members]) := by
    subst text members
    rfl
  have read : Json.objects text = .ok [members] := by
    subst text members
    rfl
  have read' : Json.objects text' = .ok [members'] := by
    subst text' members'
    rfl
  have objects : ∀ item ∈ [collected members], item.IsObject :=
    List.forall_mem_singleton.mpr ⟨_, rfl⟩
  have twenty : Json.compact (.number (.integer 20)) = "20" := Descriptor.compact_number _
  have describes : Describes (last? members) ⟨"duration", ">", none, some "20"⟩ :=
    ⟨rfl, rfl, .absent, twenty ▸ .number⟩
  have same : SameParts members members' := by
    simp only [SameParts, Descriptor.memberNames, List.forall_mem_cons]
    exact ⟨rfl, rfl, rfl, rfl, List.forall_mem_nil _⟩
  obtain ⟨mss, readAll, _, agrees⟩ :=
    parse_eq_ofDescriptors intake .traces text [collected members] size array objects
  cases read.symm.trans readAll
  obtain ⟨taken, others⟩ := agrees _ (.cons describes .nil)
  exact ⟨size, taken, others text' _ (by decide +kernel) read' (.cons same .nil), by decide +kernel⟩

/-! ## Results that agree -/

/-- Results agree when they are the same list, or refusals with the same code at the same place. -/
inductive Alike {α : Type} : Except FilterError α → Except FilterError α → Prop
  | accepted {x : α} : Alike (.ok x) (.ok x)
  | refused {e e' : FilterError} (code : e'.code = e.code) (index : e'.index? = e.index?)
      (field : e'.field? = e.field?) : Alike (.error e) (.error e')

theorem Alike.refl {α : Type} (result : Except FilterError α) : Alike result result := by
  cases result with
  | ok x => exact .accepted
  | error e => exact .refused rfl rfl rfl

/-- Refusals agree when they have the same code and the same place. -/
def SamePlace (e e' : FilterError) : Prop :=
  e'.code = e.code ∧ e'.index? = e.index? ∧ e'.field? = e.field?

theorem alike_iff_corresponds {α : Type} {result result' : Except FilterError α} :
    Alike result result' ↔ Corresponds SamePlace result result' := by
  constructor
  · intro alike
    cases alike with
    | accepted => exact .accepted
    | refused code index field => exact .refused ⟨code, index, field⟩
  · intro corresponds
    cases corresponds with
    | accepted => exact .accepted
    | refused same => exact .refused same.1 same.2.1 same.2.2

/-- Lists of which each two items become alike are counted and become alike. -/
theorem alike_bind_checkCount {α β : Type} {one : α → Except FilterError Filter}
    {one' : β → Except FilterError Filter} {items : List α} {items' : List β} (intake : Intake)
    (each : List.Forall₂ (fun x x' => Alike (one x) (one' x')) items items') :
    Alike ((intake.checkCount items).bind (resolveAll one 0))
      ((intake.checkCount items').bind (resolveAll one' 0)) := by
  simp only [alike_iff_corresponds] at each ⊢
  refine corresponds_bind_checkCount (fun _ => ⟨rfl, rfl, rfl⟩) ?_ each
  intro e e' index same
  exact ⟨same.1, rfl, same.2.2⟩

/-! ## Filters that name their entities -/

/-- An object, and the same but for the entity that it names. -/
structure Retagged (entity : Entity) (item item' : Value) : Prop where
  object : item.IsObject
  tagged : ∃ name, item'.member? "entity" = some (.string name) ∧ Entity.named? name = some entity
  others : ∀ name, name ≠ "entity" → item'.member? name = item.member? name

section Tagged

variable {intake : Intake} {entity : Entity} {ms ms' : List (String × Value)}

/-- The name of the entity is no part of the descriptor. -/
theorem Retagged.sameParts (retagged : Retagged entity (collected ms) (collected ms')) :
    SameParts ms ms' := by
  intro name part
  have other : name ≠ "entity" := by
    rintro rfl
    exact absurd part (by decide)
  rw [← Json.member?_collect, ← Json.member?_collect]
  exact retagged.others name other

theorem Retagged.object' {item item' : Value} (retagged : Retagged entity item item') :
    item'.IsObject := by
  obtain ⟨name, tagged, _⟩ := retagged.tagged
  cases item' with
  | object ms => exact ⟨ms, rfl⟩
  | _ => cases tagged

theorem taggedOfValue_of_named {name : String}
    (tagged : (collected ms).member? "entity" = some (.string name)) :
    Descriptor.taggedOfValue (collected ms) =
      (Descriptor.ofMembers (collect ms)).map fun d => (name, d) := by
  have named : (Value.object (collect ms)).member? "entity" = some (.string name) := tagged
  rw [collected, Descriptor.taggedOfValue, named]
  cases Descriptor.ofMembers (collect ms) <;> rfl

/-- An object gives a filter of an entity like the same object that names the entity. -/
theorem Retagged.alike (retagged : Retagged entity (collected ms) (collected ms')) :
    Alike (intake.resolveItem entity (collected ms)) (intake.resolveTagged (collected ms')) := by
  obtain ⟨name, tagged, named⟩ := retagged.tagged
  rw [resolveItem, resolveTagged, taggedOfValue_of_named tagged]
  have untagged : Descriptor.ofValue (collected ms) = Descriptor.ofMembers (collect ms) := rfl
  rw [untagged]
  have iff : ∀ d, Descriptor.ofMembers (collect ms') = .ok d ↔
      Descriptor.ofMembers (collect ms) = .ok d := by
    intro d
    rw [Descriptor.ofMembers_collect_eq_ok_iff, Descriptor.ofMembers_collect_eq_ok_iff,
      retagged.sameParts.describes_iff]
  cases read : Descriptor.ofMembers (collect ms) with
  | ok d =>
    rw [(iff d).mpr read]
    simp only [Except.map, named]
    exact .refl _
  | error fault =>
    cases read' : Descriptor.ofMembers (collect ms') with
    | ok d =>
      rw [(iff d).mp read'] at read
      cases read
    | error fault' =>
      have field : (collected ms').member? "field" = (collected ms).member? "field" :=
        retagged.others "field" (by decide)
      refine .refused rfl rfl ?_
      simp only [misshapen, field]

end Tagged

/-- A text of filters of one entity and a text of the same filters that each name this entity are taken
in alike, whatever forms their objects have: with the same list, or with refusals that have the same code
at the same place. -/
theorem parse_alike_parseTagged (intake : Intake) (entity : Entity) (text text' : String)
    (items items' : List Value) (size : text.utf8ByteSize ≤ intake.limits.maxJsonBytes)
    (size' : text'.utf8ByteSize ≤ intake.limits.maxJsonBytes)
    (array : Json.document text = .ok (.array items))
    (array' : Json.document text' = .ok (.array items'))
    (retagged : List.Forall₂ (Retagged entity) items items') :
    Alike (intake.parse entity text) (intake.parseTagged text') := by
  rw [parse_eq_bind, parseTagged_eq_bind, readList_eq_checkCount size array,
    readList_eq_checkCount size' array']
  have objects : ∀ item ∈ items, item.IsObject :=
    ((List.forall₂_and_left _ _).mp (retagged.imp fun _ _ item => ⟨item.object, item⟩)).1
  have objects' : ∀ item' ∈ items', item'.IsObject :=
    ((List.forall₂_and_left _ _).mp (retagged.flip.imp fun _ _ item => ⟨item.object', item⟩)).1
  obtain ⟨mss, _, rfl⟩ := Json.document_eq_array_iff.mp ⟨array, objects⟩
  obtain ⟨mss', _, rfl⟩ := Json.document_eq_array_iff.mp ⟨array', objects'⟩
  apply alike_bind_checkCount
  rw [List.forall₂_map_left_iff, List.forall₂_map_right_iff] at retagged ⊢
  exact retagged.imp fun _ _ item => item.alike

/-- An object and the same object with the entity in other letters: with an operator they give the same filter,
and without one they are refused alike. -/
theorem parse_alike_parseTagged_of_duration :
    let intake := ofEncoding .plain ⟨"UTC", 0, []⟩ ⟨1, 80⟩
    let text := "[\x7b\"field\":\"duration\",\"operator\":\">\",\"value\":5\x7d]"
    let text' := "[\x7b\"entity\":\" TRACE\",\"field\":\"duration\",\"operator\":\">\",\"value\":5\x7d]"
    let short := "[\x7b\"field\":\"duration\"\x7d]"
    let short' := "[\x7b\"entity\":\" TRACE\",\"field\":\"duration\"\x7d]"
    (intake.parse .traces text = .ok [⟨.traces, ⟨"duration", .number, []⟩, .greater, none, some "5"⟩] ∧
        Alike (intake.parse .traces text) (intake.parseTagged text')) ∧
      HasCode "INVALID_FILTER_JSON" (intake.parse .traces short) ∧
        Alike (intake.parse .traces short) (intake.parseTagged short') := by
  intro intake text text' short short'
  let start : List (String × Value) := [("field", .string "duration")]
  let members := start ++ [("operator", .string ">"), ("value", .number (.integer 5))]
  let tagged (ms : List (String × Value)) : Value := .object (("entity", .string " TRACE") :: ms)
  have array : Json.document text = .ok (.array [.object members]) := by
    subst text members start
    rfl
  have array' : Json.document text' = .ok (.array [tagged members]) := by
    subst text' tagged members start
    rfl
  have shortArray : Json.document short = .ok (.array [.object start]) := by
    subst short start
    rfl
  have shortArray' : Json.document short' = .ok (.array [tagged start]) := by
    subst short' tagged start
    rfl
  have retagged (ms : List (String × Value)) : Retagged .traces (.object ms) (tagged ms) := by
    have others : ∀ name, name ≠ "entity" → (tagged ms).member? name = (Value.object ms).member? name := by
      intro name other
      rw [Json.member?_cons, if_neg other.symm]
    exact ⟨⟨_, rfl⟩, ⟨" TRACE", rfl, by decide +kernel⟩, others⟩
  let refusal : FilterError :=
    ⟨.invalidJson ⟨.shape (.missingField "operator"), none⟩, some 0, some "duration"⟩
  have refused : HasCode "INVALID_FILTER_JSON" (intake.parse .traces short) :=
    ⟨refusal, by decide +kernel, rfl⟩
  exact ⟨⟨by decide +kernel, parse_alike_parseTagged intake .traces text text' _ _ (by decide +kernel)
      (by decide +kernel) array array' (.cons (retagged members) .nil)⟩,
    refused, parse_alike_parseTagged intake .traces short short' _ _ (by decide +kernel)
      (by decide +kernel) shortArray shortArray' (.cons (retagged start) .nil)⟩

end TypedFilters.Intake
