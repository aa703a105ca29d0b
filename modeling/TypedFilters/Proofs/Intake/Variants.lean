import Mathlib.Logic.Relation
import TypedFilters.Proofs.Filter.WellTyped
import TypedFilters.Proofs.Intake.Batch
import TypedFilters.Proofs.Text.Octets

/-!
# Differences that do not matter

Without a transport encoding, descriptors may be written in several ways: with blanks around their names
and around values that are kept trimmed, with operators in any case, with blank texts for absent ones, and
with any value where the operator takes none. Each such way is an `Edit`, and edits may be made one after
the other, there and back. They change nothing of what a descriptor selects and of what is kept of it
(`Interchangeable`), so lists that differ by edits give the same filters, or are refused for the same item
with the same code (`edited_lists_correspond`).
-/

namespace TypedFilters

open Text

/-! ## Edits -/

/-- The second text is the first one with blanks around it. -/
def Text.Surrounds (s s' : String) : Prop :=
  ∃ front back, (∀ c ∈ front, isBlankChar c) ∧ (∀ c ∈ back, isBlankChar c) ∧
    s'.toList = front ++ s.toList ++ back

/-- The texts are the same but for the case of their ASCII letters. -/
def Text.SameLetters (s s' : String) : Prop :=
  s.toList.map Char.toLower = s'.toList.map Char.toLower

/-- A text that is not there, or has only blanks. -/
def Text.CountsAsAbsent (s? : Option String) : Prop :=
  ∀ s ∈ s?, isBlank s

/-- One change of a descriptor that makes no difference to an entity. -/
inductive Descriptor.Edit (entity : Entity) (d : Descriptor) : Descriptor → Prop
  | field {name : String} (surrounds : Surrounds d.field name) : Edit entity d { d with field := name }
  | operator {name : String} (surrounds : Surrounds d.operator name) :
      Edit entity d { d with operator := name }
  | letters {name : String} (same : SameLetters d.operator name) : Edit entity d { d with operator := name }
  | value {field : Field} {v v' : String} (found : entity.field? d.field = some field)
      (trimmed : field.kind = .number ∨ field.kind = .dateTime ∨ field.kind = .enum)
      (given : d.value? = some v) (surrounds : Surrounds v v') : Edit entity d { d with value? := some v' }
  | absentKey {key? : Option String} (before : CountsAsAbsent d.key?) (after : CountsAsAbsent key?) :
      Edit entity d { d with key? := key? }
  | absentValue {value? : Option String} (before : CountsAsAbsent d.value?)
      (after : CountsAsAbsent value?) : Edit entity d { d with value? := value? }
  | uselessValue {op : Operator} {value? : Option String} (named : Operator.named? d.operator = some op)
      (nullary : op.isNullary) : Edit entity d { d with value? := value? }

/-! ## Texts that are trimmed and looked up -/

namespace Text

/-- A capital is a visible character, and so is its lower-case form. -/
theorem toNat_lowerChar_of_capital {c : Char} (capital : 'A' ≤ c ∧ c ≤ 'Z') :
    65 ≤ c.toNat ∧ c.toNat ≤ 90 ∧ (lowerChar c).toNat = c.toNat + 32 := by
  have bounds : 65 ≤ c.toNat ∧ c.toNat ≤ 90 := capital
  rw [lowerChar, if_pos capital, toNat_ofNat_of_ascii (by omega)]
  exact ⟨bounds.1, bounds.2, rfl⟩

theorem lowerChar_eq_toLower (c : Char) : lowerChar c = c.toLower := by
  by_cases capital : c.val ≥ 'A'.val ∧ c.val ≤ 'Z'.val
  · obtain ⟨_, greatest, code⟩ := toNat_lowerChar_of_capital capital
    have shift : ('a'.val - 'A'.val).toNat = 32 := rfl
    have lowered : c.toLower.val = c.val + ('a'.val - 'A'.val) := congrArg Char.val (dif_pos capital)
    rw [← Char.toNat_inj, code, ← Char.toNat_val, ← Char.toNat_val, lowered, UInt32.toNat_add, shift,
      Char.toNat_val]
    omega
  · have kept : lowerChar c = c := if_neg capital
    have kept' : c.toLower = c := dif_neg capital
    rw [kept, kept']

theorem isBlankChar_lowerChar (c : Char) : isBlankChar (lowerChar c) = isBlankChar c := by
  by_cases capital : 'A' ≤ c ∧ c ≤ 'Z'
  · obtain ⟨least, greatest, code⟩ := toNat_lowerChar_of_capital capital
    have visible := @not_isBlankChar_of_visible c (by omega) (by omega)
    have visible' := @not_isBlankChar_of_visible (lowerChar c) (by omega) (by omega)
    rw [Bool.eq_false_iff.mpr visible, Bool.eq_false_iff.mpr visible']
  · rw [lowerChar, if_neg capital]

/-- Characters may be trimmed before or after they are put in lower case. -/
theorem trimChars_map_lowerChar (cs : List Char) :
    trimChars (cs.map lowerChar) = (trimChars cs).map lowerChar := by
  have blank : isBlankChar ∘ lowerChar = isBlankChar := funext isBlankChar_lowerChar
  simp only [trimChars, List.dropWhile_map, ← List.map_reverse, blank]

variable {s s' : String}

theorem lower_trim (s : String) : lower (trim s) = String.ofList (trimChars (s.toList.map lowerChar)) := by
  rw [lower, trim, String.toList_ofList, trimChars_map_lowerChar]

theorem SameLetters.lower_trim_eq (same : SameLetters s s') : lower (trim s') = lower (trim s) := by
  have letters : lowerChar = Char.toLower := funext lowerChar_eq_toLower
  rw [lower_trim, lower_trim, letters, same]

theorem Surrounds.trim_eq (surrounds : Surrounds s s') : trim s' = trim s := by
  rcases surrounds with ⟨front, back, blankFront, blankBack, text⟩
  have trimmed := trim_surrounded blankFront blankBack s.toList
  rwa [← text, String.ofList_toList, String.ofList_toList] at trimmed

theorem isBlank_eq_of_trim_eq (same : trim s' = trim s) : isBlank s' = isBlank s := by
  rw [Bool.eq_iff_iff, ← trim_eq_empty_iff, ← trim_eq_empty_iff, same]

theorem CountsAsAbsent.nonBlank?_eq {s? : Option String} (absent : CountsAsAbsent s?) :
    nonBlank? s? = none := by
  rw [Option.eq_none_iff_forall_ne_some]
  intro s given
  obtain ⟨there, visible⟩ := nonBlank?_eq_some_iff.mp given
  exact visible (absent s there)

end Text

/-! ## Values that are kept trimmed -/

section Trimmed

variable {kind : ValueKind} {zone : Zone} {s s' : String}

theorem toUtcText?_eq_of_trim_eq (same : trim s' = trim s) : toUtcText? zone s' = toUtcText? zone s := by
  have chars : trimChars s'.toList = trimChars s.toList := String.ofList_injective same
  rw [toUtcText?, chars, toUtcText?]

/-- Of texts that are the same when they are trimmed, the same is kept where values are kept trimmed: a
date-time is read from the trimmed text, and what is no date-time is trimmed when its format is checked. -/
theorem ValueKind.normalize_inUtc_eq_of_trim_eq (trimmed : ¬ kind.isFreeText) (choices : List String)
    (same : trim s' = trim s) :
    kind.normalize choices (kind.inUtc zone s') = kind.normalize choices (kind.inUtc zone s) := by
  have checked : ∀ {t t'}, trim t' = trim t → kind.normalize choices t' = kind.normalize choices t := by
    intro t t' same
    rw [normalize, if_neg trimmed, same, normalize, if_neg trimmed]
  by_cases time : kind = .dateTime
  · rw [inUtc, if_pos time, inUtc, if_pos time, toUtcText?_eq_of_trim_eq same]
    cases toUtcText? zone s with
    | none => exact checked same
    | some utc => rfl
  · rw [inUtc, if_neg time, inUtc, if_neg time]
    exact checked same

end Trimmed

namespace Intake

/-! ## Descriptors that can be exchanged -/

/-- Both descriptors select the same, with the same key, and the same is kept of their values. -/
structure Interchangeable (intake : Intake) (entity : Entity) (d d' : Descriptor) : Prop where
  operator : Operator.named? d'.operator = Operator.named? d.operator
  field : entity.field? d'.field = entity.field? d.field
  key : nonBlank? d'.key? = nonBlank? d.key?
  value : ∀ op field, Operator.named? d.operator = some op → entity.field? d.field = some field →
    intake.keptValue field op d'.value? = intake.keptValue field op d.value?

/-- Refusals have the same index and the same code. -/
def SameIndexAndCode (e e' : FilterError) : Prop :=
  e'.index? = e.index? ∧ e'.code = e.code

section Interchangeable

variable {intake : Intake} {entity : Entity} {d d' d'' : Descriptor}

theorem Interchangeable.refl (d : Descriptor) : Interchangeable intake entity d d :=
  ⟨rfl, rfl, rfl, fun _ _ _ _ => rfl⟩

theorem Interchangeable.symm (same : Interchangeable intake entity d d') :
    Interchangeable intake entity d' d where
  operator := same.operator.symm
  field := same.field.symm
  key := same.key.symm
  value op field named found :=
    (same.value op field (same.operator ▸ named) (same.field ▸ found)).symm

theorem Interchangeable.trans (first : Interchangeable intake entity d d')
    (second : Interchangeable intake entity d' d'') : Interchangeable intake entity d d'' where
  operator := second.operator.trans first.operator
  field := second.field.trans first.field
  key := second.key.trans first.key
  value op field named found :=
    (second.value op field (first.operator.trans named) (first.field.trans found)).trans
      (first.value op field named found)

/-- Descriptors that can be exchanged become the same filter, or are refused with the same code. -/
theorem Interchangeable.corresponds (same : Interchangeable intake entity d d') :
    Corresponds SameIndexAndCode (intake.resolve entity d) (intake.resolve entity d') := by
  have operator := same.operator
  have field := same.field
  cases named : Operator.named? d.operator with
  | none =>
    rw [resolve_of_unknownOperator named, resolve_of_unknownOperator (operator.trans named)]
    exact .refused ⟨rfl, rfl⟩
  | some op =>
    cases found : entity.field? d.field with
    | none =>
      rw [resolve_of_unknownField named found,
        resolve_of_unknownField (operator.trans named) (field.trans found)]
      exact .refused ⟨rfl, rfl⟩
    | some selected =>
      have equal : intake.resolve entity d' = intake.resolve entity d := by
        by_cases supported : selected.supports op
        · have selects : Selects entity d op selected := ⟨named, found, supported⟩
          have selects' : Selects entity d' op selected :=
            ⟨operator.trans named, field.trans found, supported⟩
          exact resolve_eq_of_same_kept selects selects' same.key (same.value op selected named found)
        · rw [resolve_of_unsupported named found supported,
            resolve_of_unsupported (operator.trans named) (field.trans found) supported]
      rw [equal]
      cases intake.resolve entity d with
      | ok f => exact .accepted
      | error e => exact .refused ⟨rfl, rfl⟩

/-- The same is kept of values of which the same counts as given. -/
theorem keptValue_eq_of_nonBlank? {value? value?' : Option String}
    (same : nonBlank? value?' = nonBlank? value?) (field : Field) (op : Operator) :
    intake.keptValue field op value?' = intake.keptValue field op value? := by
  rw [keptValue, Filter.checkPresence, same, keptValue, Filter.checkPresence]

theorem keptValue_of_isNullary {op : Operator} (nullary : op.isNullary) (field : Field)
    (value? : Option String) : intake.keptValue field op value? = .ok none := by
  rw [keptValue, Filter.checkPresence, if_pos nullary]

end Interchangeable

/-! ## Edits change nothing -/

section Edits

variable {zone : Zone} {limits : Limits} {entity : Entity} {d d' : Descriptor}

/-- Without a transport encoding, values that are kept trimmed may have blanks around them. -/
theorem keptValue_eq_of_surrounds {field : Field} {v v' : String} (trimmed : ¬ field.kind.isFreeText)
    (surrounds : Surrounds v v') (op : Operator) :
    (ofEncoding .plain zone limits).keptValue field op (some v') =
      (ofEncoding .plain zone limits).keptValue field op (some v) := by
  have same := surrounds.trim_eq
  have format := @ValueKind.normalize_inUtc_eq_of_trim_eq _ zone _ _ trimmed field.choices same
  have decodes : ∀ raw, (ofEncoding .plain zone limits).decode field.kind raw =
      .ok (field.kind.inUtc zone raw) := fun _ => rfl
  by_cases nullary : op.isNullary
  · rw [keptValue_of_isNullary nullary, keptValue_of_isNullary nullary]
  · simp only [keptValue, Filter.checkPresence, if_neg nullary, nonBlank?, Option.filter_some,
      isBlank_eq_of_trim_eq same]
    cases isBlank v with
    | true => rfl
    | false => simp only [Bool.not_false, if_true, decodes, format]

/-- An edit leaves a descriptor that can be exchanged with the one before. -/
theorem interchangeable_of_edit (edit : Descriptor.Edit entity d d') :
    Interchangeable (ofEncoding .plain zone limits) entity d d' := by
  have same := @Interchangeable.refl (ofEncoding .plain zone limits) entity d
  cases edit with
  | @field name surrounds =>
    have found : entity.field? name = entity.field? d.field := by
      rw [Entity.field?, surrounds.trim_eq, Entity.field?]
    exact { same with field := found }
  | @operator name surrounds =>
    have named : Operator.named? name = Operator.named? d.operator := by
      rw [Operator.named?, surrounds.trim_eq, Operator.named?]
    exact { same with operator := named }
  | @letters name letters =>
    have named : Operator.named? name = Operator.named? d.operator := by
      rw [Operator.named?, letters.lower_trim_eq, Operator.named?]
    exact { same with operator := named }
  | @value field v v' found trimmed given surrounds =>
    have notFree : ¬ field.kind.isFreeText := by
      rcases trimmed with kind | kind | kind <;> rw [kind] <;> exact Bool.false_ne_true
    refine { same with value := ?_ }
    intro op field' _ found'
    cases found.symm.trans found'
    rw [given]
    exact keptValue_eq_of_surrounds notFree surrounds op
  | absentKey before after =>
    exact { same with key := after.nonBlank?_eq.trans before.nonBlank?_eq.symm }
  | absentValue before after =>
    refine { same with value := fun op field _ _ => ?_ }
    exact keptValue_eq_of_nonBlank? (after.nonBlank?_eq.trans before.nonBlank?_eq.symm) field op
  | uselessValue named nullary =>
    refine { same with value := ?_ }
    intro op field named' _
    cases named.symm.trans named'
    rw [keptValue_of_isNullary nullary, keptValue_of_isNullary nullary]

theorem interchangeable_of_edits (edits : Relation.EqvGen (Descriptor.Edit entity) d d') :
    Interchangeable (ofEncoding .plain zone limits) entity d d' := by
  induction edits with
  | rel _ _ edit => exact interchangeable_of_edit edit
  | refl d => exact .refl d
  | symm _ _ _ ih => exact ih.symm
  | trans _ _ _ _ _ first second => exact first.trans second

end Edits

/-- Lists of descriptors that differ by edits, whichever and however many, are taken in alike without a
transport encoding: they give the same filters, or are refused with the same index and the same code. -/
theorem edited_lists_correspond (entity : Entity) (zone : Zone) (limits : Limits)
    (descriptors descriptors' : List Descriptor)
    (edited : List.Forall₂ (Relation.EqvGen (Descriptor.Edit entity)) descriptors descriptors') :
    Corresponds SameIndexAndCode
      ((ofEncoding .plain zone limits).ofDescriptors entity descriptors)
      ((ofEncoding .plain zone limits).ofDescriptors entity descriptors') := by
  rw [ofDescriptors_eq_bind, ofDescriptors_eq_bind]
  refine corresponds_bind_checkCount (fun _ => ⟨rfl, rfl⟩) (fun _ same => ⟨rfl, same.2⟩) ?_
  exact edited.imp fun _ _ edits => (interchangeable_of_edits edits).corresponds

/-- One number is written with blanks, capitals and a blank key, and one operator gets a value that it has
no use for. -/
theorem edited_lists_correspond_of_duration :
    let intake := ofEncoding .plain ⟨"UTC", 0, []⟩ .standard
    let descriptors : List Descriptor :=
      [⟨"duration", "less_than", none, some "5"⟩, ⟨"name", "is_empty", none, none⟩]
    let descriptors' : List Descriptor :=
      [⟨" duration", "Less_Than", some "\t", some "5\n"⟩, ⟨"name", "is_empty", none, some "x"⟩]
    List.Forall₂ (Relation.EqvGen (Descriptor.Edit .traces)) descriptors descriptors' ∧
      Corresponds SameIndexAndCode (intake.ofDescriptors .traces descriptors)
        (intake.ofDescriptors .traces descriptors') ∧
      intake.ofDescriptors .traces descriptors' =
        .ok [⟨.traces, ⟨"duration", .number, []⟩, .less, none, some "5"⟩,
          ⟨.traces, ⟨"name", .string, []⟩, .isEmpty, none, none⟩] := by
  intro intake descriptors descriptors'
  let named : Descriptor := ⟨" duration", "less_than", none, some "5"⟩
  let capital : Descriptor := ⟨" duration", "Less_Than", none, some "5"⟩
  let keyed : Descriptor := ⟨" duration", "Less_Than", some "\t", some "5"⟩
  have field : Descriptor.Edit .traces ⟨"duration", "less_than", none, some "5"⟩ named :=
    .field ⟨[' '], [], List.forall_mem_singleton.mpr rfl, nofun, rfl⟩
  have same : "less_than".toList.map Char.toLower = "Less_Than".toList.map Char.toLower := by decide
  have letters : Descriptor.Edit .traces named capital := .letters same
  have key : Descriptor.Edit .traces capital keyed := .absentKey nofun fun _ given => by cases given; rfl
  have value : Descriptor.Edit .traces keyed ⟨" duration", "Less_Than", some "\t", some "5\n"⟩ :=
    .value (by decide +kernel : Entity.traces.field? " duration" = some ⟨"duration", .number, []⟩)
      (.inl rfl) rfl ⟨[], ['\n'], nofun, List.forall_mem_singleton.mpr rfl, rfl⟩
  have useless : Descriptor.Edit .traces ⟨"name", "is_empty", none, none⟩
      ⟨"name", "is_empty", none, some "x"⟩ :=
    .uselessValue (by decide +kernel : Operator.named? "is_empty" = some .isEmpty) rfl
  have first := ((Relation.EqvGen.rel _ _ field).trans _ _ _ (.rel _ _ letters)).trans _ _ _
    ((Relation.EqvGen.rel _ _ key).trans _ _ _ (.rel _ _ value))
  have edited : List.Forall₂ (Relation.EqvGen (Descriptor.Edit .traces)) descriptors descriptors' :=
    .cons first (.cons (.rel _ _ useless) .nil)
  exact ⟨edited, edited_lists_correspond .traces ⟨"UTC", 0, []⟩ .standard _ _ edited, by decide +kernel⟩

end Intake

end TypedFilters
