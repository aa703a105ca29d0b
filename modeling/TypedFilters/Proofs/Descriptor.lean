import Mathlib.Data.Option.Basic
import TypedFilters.Descriptor
import TypedFilters.Proofs.Json.Objects
import TypedFilters.Proofs.Json.RoundTrip

/-!
# The descriptor that members give

The members of an object are put into a draft one after the other. Each of the four parts of a draft is a
`Slot`: it knows the name of its member and how it is read, and it holds what was read last under this
name (`Slot.rel_of_fill`). So an object gives a descriptor exactly if the last members of the four names
have the right form and give its parts (`Describes`, `ofMembers_collect_eq_ok_iff`); nothing else about
its members matters.
-/

namespace TypedFilters.Descriptor

open Json (Value ShapeFault last? collect)

/-! ## What members give -/

/-- A text is given, or there is none: nothing is given, or `null`. -/
inductive GivesText : Option Value → Option String → Prop
  | absent : GivesText none none
  | null : GivesText (some .null) none
  | string {s : String} : GivesText (some (.string s)) (some s)

/-- A text is given or absent, or a number or truth value is given, whose JSON text counts. -/
inductive GivesScalar : Option Value → Option String → Prop
  | text {v? : Option Value} {s? : Option String} (text : GivesText v? s?) : GivesScalar v? s?
  | number {n : Json.Number} : GivesScalar (some (.number n)) (some (Json.compact (.number n)))
  | bool {b : Bool} : GivesScalar (some (.bool b)) (some (Json.compact (.bool b)))

/-- The values that are given under names are those of a descriptor. -/
structure Describes (given : String → Option Value) (d : Descriptor) : Prop where
  field : given "field" = some (.string d.field)
  operator : given "operator" = some (.string d.operator)
  key : GivesText (given "key") d.key?
  value : GivesScalar (given "value") d.value?

/-- The names under which a descriptor is given. -/
def memberNames : List String :=
  ["field", "operator", "key", "value"]

theorem Describes.of_same {given given' : String → Option Value} {d : Descriptor}
    (describes : Describes given d) (same : ∀ name ∈ memberNames, given' name = given name) :
    Describes given' d := by
  simp only [memberNames, List.forall_mem_cons] at same
  rcases same with ⟨field, operator, key, value, _⟩
  exact {
    field := field ▸ describes.field
    operator := operator ▸ describes.operator
    key := key ▸ describes.key
    value := value ▸ describes.value }

section Parts

variable {v : Value} {v? : Option Value} {s : String} {s? s?' : Option String}

theorem GivesText.unique (one : GivesText v? s?) (other : GivesText v? s?') : s? = s?' := by
  cases one <;> cases other <;> rfl

theorem GivesScalar.unique (one : GivesScalar v? s?) (other : GivesScalar v? s?') : s? = s?' := by
  cases one with
  | text one =>
    cases other with
    | text other => exact one.unique other
    | number => cases one
    | bool => cases one
  | number =>
    cases other with
    | text other => cases other
    | number => rfl
  | bool =>
    cases other with
    | text other => cases other
    | bool => rfl

theorem text_eq_ok_iff : text v = .ok s ↔ v = .string s := by
  cases v <;> simp [text]

theorem optionalText_eq_ok_iff : optionalText v = .ok s? ↔ GivesText (some v) s? := by
  constructor
  · intro read
    cases v with
    | null =>
      cases read
      exact .null
    | string s =>
      cases read
      exact .string
    | _ => cases read
  · intro gives
    cases gives <;> rfl

theorem compact_number (n : Json.Number) : Json.compact (.number n) = n.text := by
  rw [Json.compact, Json.compactText, Json.scalarText, String.ofList_toList]
  · exact nofun
  · exact nofun

theorem scalarText_eq_ok_iff : scalarText v = .ok s? ↔ GivesScalar (some v) s? := by
  constructor
  · intro read
    cases v with
    | null =>
      cases read
      exact .text .null
    | string s =>
      cases read
      exact .text .string
    | number n =>
      cases read
      rw [← compact_number]
      exact .number
    | bool b =>
      cases read
      cases b
      · exact .bool
      · exact .bool
    | _ => cases read
  · intro gives
    cases gives with
    | text gives => cases gives <;> rfl
    | number =>
      rw [compact_number]
      rfl
    | @bool b => cases b <;> rfl

end Parts

/-! ## Drafts -/

/-- What one member does to a draft. -/
inductive Adds (draft : Draft) (v : Value) : String → Draft → Prop
  | field {s} (read : text v = .ok s) : Adds draft v "field" { draft with field? := some s }
  | operator {s} (read : text v = .ok s) : Adds draft v "operator" { draft with operator? := some s }
  | key {s?} (read : optionalText v = .ok s?) : Adds draft v "key" { draft with key? := some s? }
  | value {s?} (read : scalarText v = .ok s?) : Adds draft v "value" { draft with value? := some s? }
  | other {name} (field : name ≠ "field") (operator : name ≠ "operator") (key : name ≠ "key")
      (value : name ≠ "value") : Adds draft v name draft

section Drafts

variable {draft draft' : Draft} {name : String} {v : Value} {members : List (String × Value)}

theorem add_eq_ok_iff : draft.add name v = .ok draft' ↔ Adds draft v name draft' := by
  constructor
  · intro added
    unfold Draft.add at added
    split at added
    · next name =>
      obtain ⟨s, read, rfl⟩ := Json.map_eq_ok_iff.mp added
      exact name ▸ .field read
    split at added
    · next name =>
      obtain ⟨s, read, rfl⟩ := Json.map_eq_ok_iff.mp added
      exact name ▸ .operator read
    split at added
    · next name =>
      obtain ⟨s?, read, rfl⟩ := Json.map_eq_ok_iff.mp added
      exact name ▸ .key read
    split at added
    · next name =>
      obtain ⟨s?, read, rfl⟩ := Json.map_eq_ok_iff.mp added
      exact name ▸ .value read
    · next field operator key value =>
      cases added
      exact .other field operator key value
  · intro adds
    cases adds with
    | field read | operator read | key read | value read =>
      simp only [Draft.add, String.reduceEq, if_true, if_false, read, Except.map]
    | other field operator key value =>
      rw [Draft.add, if_neg field, if_neg operator, if_neg key, if_neg value]

/-- The draft that members fill in order. -/
def fill (members : List (String × Value)) : Except ShapeFault Draft :=
  members.foldlM (fun draft m => draft.add m.1 m.2) Draft.empty

theorem fill_concat_eq_ok_iff {m : String × Value} :
    fill (members ++ [m]) = .ok draft' ↔
      ∃ draft, fill members = .ok draft ∧ Adds draft m.2 m.1 draft' := by
  simp only [fill, List.foldlM_append, List.foldlM_cons, List.foldlM_nil, bind, ← add_eq_ok_iff]
  cases List.foldlM (fun draft m => draft.add m.1 m.2) Draft.empty members with
  | error fault => exact iff_of_false nofun fun ⟨_, filled, _⟩ => nomatch filled
  | ok draft =>
    cases added : draft.add m.1 m.2 <;> simp [Except.bind, pure, Except.pure, added]

/-- Members that are added one by one fill a draft. -/
theorem exists_of_forall_adds
    (each : ∀ m ∈ members, ∀ draft, ∃ draft', Adds draft m.2 m.1 draft') :
    ∃ draft, fill members = .ok draft := by
  induction members using List.reverseRecOn with
  | nil => exact ⟨Draft.empty, rfl⟩
  | append_singleton members m ih =>
    obtain ⟨draft, filled⟩ := ih fun earlier before => each earlier (List.mem_append_left _ before)
    obtain ⟨draft', added⟩ := each m (List.mem_append_right _ List.mem_cons_self) draft
    exact ⟨draft', fill_concat_eq_ok_iff.mpr ⟨draft, filled, added⟩⟩

theorem finish_eq_ok_iff {d : Descriptor} :
    draft.finish = .ok d ↔
      draft.field? = some d.field ∧ draft.operator? = some d.operator ∧
        draft.key?.join = d.key? ∧ draft.value?.join = d.value? := by
  rcases draft with ⟨_ | field, _ | operator, key?, value?⟩
  case some.some =>
    cases d
    simp only [Draft.finish, Except.ok.injEq, Descriptor.mk.injEq, Option.some.injEq]
  all_goals exact iff_of_false nofun fun parts => by simp at parts

end Drafts

/-! ## Slots -/

/-- A part of a draft that is read from the members of one name: adding a member of this name puts in
what is read from it, and adding any other member leaves the part as it is. -/
structure Slot (α : Type) where
  name : String
  read : Value → Except ShapeFault α
  kept : Draft → Option α
  kept_empty : kept Draft.empty = none
  kept_add : ∀ {draft v name' draft'}, Adds draft v name' draft' →
    if name' = name then ∃ x, read v = .ok x ∧ kept draft' = some x else kept draft' = kept draft

namespace Slot

variable {α : Type} {members : List (String × Value)} {draft : Draft}

def field : Slot String where
  name := "field"
  read := text
  kept := Draft.field?
  kept_empty := rfl
  kept_add := by
    intro draft v name draft' adds
    cases adds with
    | field read => exact ⟨_, read, rfl⟩
    | other field => rw [if_neg field]
    | _ => exact rfl

def operator : Slot String where
  name := "operator"
  read := text
  kept := Draft.operator?
  kept_empty := rfl
  kept_add := by
    intro draft v name draft' adds
    cases adds with
    | operator read => exact ⟨_, read, rfl⟩
    | other _ operator => rw [if_neg operator]
    | _ => exact rfl

def key : Slot (Option String) where
  name := "key"
  read := optionalText
  kept := Draft.key?
  kept_empty := rfl
  kept_add := by
    intro draft v name draft' adds
    cases adds with
    | key read => exact ⟨_, read, rfl⟩
    | other _ _ key => rw [if_neg key]
    | _ => exact rfl

def value : Slot (Option String) where
  name := "value"
  read := scalarText
  kept := Draft.value?
  kept_empty := rfl
  kept_add := by
    intro draft v name draft' adds
    cases adds with
    | value read => exact ⟨_, read, rfl⟩
    | other _ _ _ value => rw [if_neg value]
    | _ => exact rfl

/-- A slot of a filled draft holds what is read from the last member of its name. -/
theorem rel_of_fill (slot : Slot α) (filled : fill members = .ok draft) :
    Option.Rel (fun v x => slot.read v = .ok x) (last? members slot.name) (slot.kept draft) := by
  induction members using List.reverseRecOn generalizing draft with
  | nil =>
    cases filled
    rw [slot.kept_empty]
    exact .none
  | append_singleton members m ih =>
    obtain ⟨before, filled, adds⟩ := fill_concat_eq_ok_iff.mp filled
    have kept := slot.kept_add adds
    rw [Json.last?_concat]
    by_cases same : m.1 = slot.name
    · rw [if_pos same] at kept ⊢
      obtain ⟨x, read, kept⟩ := kept
      rw [kept]
      exact .some read
    · rw [if_neg same] at kept ⊢
      rw [kept]
      exact ih filled

end Slot

/-! ## Descriptors of objects -/

section Objects

variable {members : List (String × Value)} {draft : Draft} {d : Descriptor}

theorem givesText_of_rel {v? : Option Value} {s?? : Option (Option String)}
    (rel : Option.Rel (fun v s? => optionalText v = .ok s?) v? s??) : GivesText v? s??.join := by
  cases rel with
  | none => exact .absent
  | some read => exact optionalText_eq_ok_iff.mp read

theorem givesScalar_of_rel {v? : Option Value} {s?? : Option (Option String)}
    (rel : Option.Rel (fun v s? => scalarText v = .ok s?) v? s??) : GivesScalar v? s??.join := by
  cases rel with
  | none => exact .text .absent
  | some read => exact scalarText_eq_ok_iff.mp read

theorem eq_some_string_iff_of_rel {v? : Option Value} {s? : Option String} {s : String}
    (rel : Option.Rel (fun v s => text v = .ok s) v? s?) : v? = some (.string s) ↔ s? = some s := by
  cases rel with
  | none => exact iff_of_false nofun nofun
  | some read =>
    rw [text_eq_ok_iff.mp read, Option.some.injEq, Option.some.injEq, Value.string.injEq]

/-- What a filled draft becomes is described by the last members. -/
theorem finish_eq_ok_iff_describes (filled : fill members = .ok draft) :
    draft.finish = .ok d ↔ Describes (last? members) d := by
  have field := eq_some_string_iff_of_rel (s := d.field) (Slot.field.rel_of_fill filled)
  have operator := eq_some_string_iff_of_rel (s := d.operator) (Slot.operator.rel_of_fill filled)
  have key := givesText_of_rel (Slot.key.rel_of_fill filled)
  have value := givesScalar_of_rel (Slot.value.rel_of_fill filled)
  rw [finish_eq_ok_iff]
  constructor
  · intro parts
    rcases parts with ⟨hasField, hasOperator, keyEq, valueEq⟩
    exact ⟨field.mpr hasField, operator.mpr hasOperator, keyEq ▸ key, valueEq ▸ value⟩
  · intro describes
    exact ⟨field.mp describes.field, operator.mp describes.operator, key.unique describes.key,
      value.unique describes.value⟩

/-- Where no name is given twice, members that describe a descriptor fill a draft. -/
theorem exists_fill_of_describes (distinct : (members.map Prod.fst).Nodup)
    (describes : Describes (last? members) d) : ∃ draft, fill members = .ok draft := by
  apply exists_of_forall_adds
  rintro ⟨name, v⟩ given draft
  have last : last? members name = some v := Json.last?_of_mem distinct given
  by_cases field : name = "field"
  · subst field
    exact ⟨_, .field (text_eq_ok_iff.mpr (Option.some.inj (last.symm.trans describes.field)))⟩
  by_cases operator : name = "operator"
  · subst operator
    exact ⟨_, .operator (text_eq_ok_iff.mpr (Option.some.inj (last.symm.trans describes.operator)))⟩
  by_cases key : name = "key"
  · subst key
    exact ⟨_, .key (optionalText_eq_ok_iff.mpr (last ▸ describes.key))⟩
  by_cases value : name = "value"
  · subst value
    exact ⟨_, .value (scalarText_eq_ok_iff.mpr (last ▸ describes.value))⟩
  · exact ⟨draft, .other field operator key value⟩

theorem ofMembers_eq_ok_iff (distinct : (members.map Prod.fst).Nodup) :
    ofMembers members = .ok d ↔ Describes (last? members) d := by
  have taken : ofMembers members = (fill members).bind Draft.finish := rfl
  rw [taken]
  constructor
  · intro ok
    cases filled : fill members with
    | error fault =>
      rw [filled] at ok
      cases ok
    | ok draft =>
      rw [filled] at ok
      exact (finish_eq_ok_iff_describes filled).mp ok
  · intro describes
    obtain ⟨draft, filled⟩ := exists_fill_of_describes distinct describes
    rw [filled]
    exact (finish_eq_ok_iff_describes filled).mpr describes

/-- An object gives a descriptor exactly if its last members describe it, whatever else it has. -/
theorem ofMembers_collect_eq_ok_iff :
    ofMembers (collect members) = .ok d ↔ Describes (last? members) d := by
  have distinct := Json.nodup_collect members
  have last : last? (collect members) = last? members := by
    funext name
    rw [← Json.member?_collect, Json.collect_of_nodup distinct, Json.member?_collect]
  rw [ofMembers_eq_ok_iff distinct, last]

end Objects

end TypedFilters.Descriptor
