import TypedFilters.Proofs.Descriptor
import TypedFilters.Proofs.Json.Values

/-!
# The values that give a descriptor

A descriptor is given by an object with its parts under four names, or by an array of at most four items,
which are its parts in the order of these names. Either way the values that are given under the names decide
(`given`): a value gives a descriptor exactly if they describe it (`ofValue_eq_ok_iff`), and it gives some
descriptor exactly if each of them is of the right form (`exists_ofValue_iff`).
-/

namespace TypedFilters.Descriptor

open Json (Value ShapeFault last? collect bind_eq_ok_iff)

/-- What a value gives under a name: an object the member of this name, and an array that is short enough
the item in the place of this name. -/
def given : Value → String → Option Value
  | .object ms, name => (Value.object ms).member? name
  | .array vs, name =>
    if vs.length ≤ memberNames.length then (Value.object (memberNames.zip vs)).member? name else none
  | _, _ => none

/-- The values under the names of a descriptor have the right form: texts for field and operator, a text or
nothing for the key, and a scalar or nothing for the value. -/
structure WellFormed (given : String → Option Value) : Prop where
  field : ∃ s, given "field" = some (.string s)
  operator : ∃ s, given "operator" = some (.string s)
  key : ∀ v ∈ given "key", v = .null ∨ ∃ s, v = .string s
  value : ∀ v ∈ given "value", v = .null ∨ (∃ s, v = .string s) ∨ (∃ n, v = .number n) ∨ ∃ b, v = .bool b

section Parts

variable {v? : Option Value}

theorem exists_givesText_iff : (∃ s?, GivesText v? s?) ↔ ∀ v ∈ v?, v = .null ∨ ∃ s, v = .string s := by
  constructor
  · rintro ⟨s?, gives⟩ v mem
    cases gives with
    | absent => cases mem
    | null => exact .inl (Option.some.inj mem).symm
    | string => exact .inr ⟨_, (Option.some.inj mem).symm⟩
  · intro form
    cases v? with
    | none => exact ⟨none, .absent⟩
    | some v =>
      rcases form v rfl with rfl | ⟨s, rfl⟩
      · exact ⟨none, .null⟩
      · exact ⟨some s, .string⟩

theorem exists_givesScalar_iff :
    (∃ s?, GivesScalar v? s?) ↔
      ∀ v ∈ v?, v = .null ∨ (∃ s, v = .string s) ∨ (∃ n, v = .number n) ∨ ∃ b, v = .bool b := by
  constructor
  · rintro ⟨s?, gives⟩ v mem
    cases gives with
    | text gives => exact (exists_givesText_iff.mp ⟨s?, gives⟩ v mem).imp_right .inl
    | number => exact .inr (.inr (.inl ⟨_, (Option.some.inj mem).symm⟩))
    | bool => exact .inr (.inr (.inr ⟨_, (Option.some.inj mem).symm⟩))
  · intro form
    cases v? with
    | none => exact ⟨none, .text .absent⟩
    | some v =>
      rcases form v rfl with rfl | ⟨s, rfl⟩ | ⟨n, rfl⟩ | ⟨b, rfl⟩
      · exact ⟨none, .text .null⟩
      · exact ⟨some s, .text .string⟩
      · exact ⟨_, .number⟩
      · exact ⟨_, .bool⟩

theorem exists_describes_iff {given : String → Option Value} :
    (∃ d, Describes given d) ↔ WellFormed given := by
  constructor
  · rintro ⟨d, describes⟩
    exact {
      field := ⟨_, describes.field⟩
      operator := ⟨_, describes.operator⟩
      key := exists_givesText_iff.mp ⟨_, describes.key⟩
      value := exists_givesScalar_iff.mp ⟨_, describes.value⟩ }
  · intro form
    obtain ⟨field, hasField⟩ := form.field
    obtain ⟨operator, hasOperator⟩ := form.operator
    obtain ⟨key?, key⟩ := exists_givesText_iff.mpr form.key
    obtain ⟨value?, value⟩ := exists_givesScalar_iff.mpr form.value
    exact ⟨⟨field, operator, key?, value?⟩, hasField, hasOperator, key, value⟩

end Parts

/-! ## Arrays -/

section Arrays

variable {s? : Option String} {d : Descriptor}

theorem givesText_none_iff : GivesText none s? ↔ none = s? := by
  constructor
  · intro gives
    cases gives
    rfl
  · rintro rfl
    exact .absent

theorem givesScalar_none_iff : GivesScalar none s? ↔ none = s? := by
  constructor
  · intro gives
    cases gives with
    | text gives => exact givesText_none_iff.mp gives
  · rintro rfl
    exact .text .absent

/-- The items of an array are the parts of a descriptor in order, of which the last two may be missing. -/
theorem ofItems_cons_cons_eq_ok_iff {field operator : Value} {rest : List Value} :
    ofItems (field :: operator :: rest) = .ok d ↔
      field = .string d.field ∧ operator = .string d.operator ∧ GivesText rest[0]? d.key? ∧
        GivesScalar rest[1]? d.value? ∧ rest.length ≤ 2 := by
  rcases d with ⟨f, o, key?, value?⟩
  rcases rest with _ | ⟨key, _ | ⟨value, _ | ⟨more, rest⟩⟩⟩ <;>
    simp [ofItems, bind_eq_ok_iff, text_eq_ok_iff, optionalText_eq_ok_iff, scalarText_eq_ok_iff,
      givesText_none_iff, givesScalar_none_iff]

theorem given_array_eq_none {vs : List Value} (long : memberNames.length < vs.length) (name : String) :
    given (.array vs) name = none := by
  rw [given, if_neg (Nat.not_le.mpr long)]

/-- The names of a descriptor and the items of an array in the places of these names. -/
theorem given_array_cons_cons {field operator : Value} {rest : List Value} (short : rest.length ≤ 2) :
    given (.array (field :: operator :: rest)) "field" = some field ∧
      given (.array (field :: operator :: rest)) "operator" = some operator ∧
      given (.array (field :: operator :: rest)) "key" = rest[0]? ∧
      given (.array (field :: operator :: rest)) "value" = rest[1]? := by
  rcases rest with _ | ⟨key, _ | ⟨value, _ | ⟨more, rest⟩⟩⟩
  · exact ⟨rfl, rfl, rfl, rfl⟩
  · exact ⟨rfl, rfl, rfl, rfl⟩
  · exact ⟨rfl, rfl, rfl, rfl⟩
  · simp only [List.length_cons] at short
    omega

theorem ofItems_eq_ok_iff {vs : List Value} :
    ofItems vs = .ok d ↔ Describes (given (.array vs)) d := by
  rcases vs with _ | ⟨field, _ | ⟨operator, rest⟩⟩
  · refine iff_of_false (fun ok => ?_) fun describes => ?_
    · cases ok
    · cases describes.field
  · refine iff_of_false (fun ok => ?_) fun describes => ?_
    · obtain ⟨_, _, none⟩ := bind_eq_ok_iff.mp ok
      cases none
    · cases describes.operator
  · rw [ofItems_cons_cons_eq_ok_iff]
    by_cases short : rest.length ≤ 2
    · obtain ⟨hasField, hasOperator, hasKey, hasValue⟩ := @given_array_cons_cons field operator rest short
      constructor
      · intro parts
        rcases parts with ⟨fieldText, operatorText, key, value, _⟩
        exact {
          field := fieldText ▸ hasField
          operator := operatorText ▸ hasOperator
          key := hasKey ▸ key
          value := hasValue ▸ value }
      · intro describes
        exact ⟨Option.some.inj (hasField.symm.trans describes.field),
          Option.some.inj (hasOperator.symm.trans describes.operator), hasKey ▸ describes.key,
          hasValue ▸ describes.value, short⟩
    · refine iff_of_false (fun parts => short parts.2.2.2.2) fun describes => ?_
      have long : memberNames.length < (field :: operator :: rest).length := by
        simp only [memberNames, List.length_cons, List.length_nil]
        omega
      have given := describes.field
      rw [given_array_eq_none long] at given
      cases given

end Arrays

/-! ## Items -/

section Items

variable {item : Value} {d : Descriptor}

theorem given_object {ms : List (String × Value)} (read : (Value.object ms).IsRead) :
    given (.object ms) = last? ms := by
  funext name
  rw [given, ← Json.member?_collect, Json.collect_of_nodup read.members.1]

theorem exists_mem_of_member? {ms : List (String × Value)} {name : String} {v : Value}
    (found : (Value.object ms).member? name = some v) : ∃ m ∈ ms, m.2 = v := by
  obtain ⟨m, search, same⟩ := Option.map_eq_some_iff.mp found
  exact ⟨m, List.mem_of_find?_eq_some search, same⟩

/-- What a value that is read gives is read itself. -/
theorem isRead_of_given (read : item.IsRead) {name : String} {v : Value} (gives : given item name = some v) :
    v.IsRead := by
  cases item with
  | object ms =>
    obtain ⟨m, mem, rfl⟩ := exists_mem_of_member? gives
    exact read.members.2 m mem
  | array vs =>
    rw [given] at gives
    split at gives
    · obtain ⟨m, mem, rfl⟩ := exists_mem_of_member? gives
      exact read.item _ (List.of_mem_zip mem).2
    · cases gives
  | _ => cases gives

/-- A value that is read gives the descriptor that its values under the four names describe. -/
theorem ofValue_eq_ok_iff (read : item.IsRead) : ofValue item = .ok d ↔ Describes (given item) d := by
  cases item with
  | object ms => rw [ofValue, ofMembers_eq_ok_iff read.members.1, given_object read]
  | array vs => exact ofItems_eq_ok_iff
  | _ => exact iff_of_false nofun fun describes => nomatch describes.field

/-- A value that is read gives some descriptor exactly if its values under the four names are well formed. -/
theorem exists_ofValue_iff (read : item.IsRead) :
    (∃ d, ofValue item = .ok d) ↔ WellFormed (given item) := by
  simp only [ofValue_eq_ok_iff read, exists_describes_iff]

/-- A value that is read gives a tagged descriptor if it is an object with the name of an entity among its
members, and else as without this name. -/
theorem taggedOfValue_eq_ok_iff (read : item.IsRead) {name : String} :
    taggedOfValue item = .ok (name, d) ↔
      item.IsObject ∧ item.member? "entity" = some (.string name) ∧ Describes (given item) d := by
  cases item with
  | object ms =>
    have given : ofMembers ms = .ok d ↔ Describes (given (.object ms)) d := ofValue_eq_ok_iff read
    have object : (Value.object ms).IsObject := ⟨ms, rfl⟩
    rw [← given, taggedOfValue]
    cases (Value.object ms).member? "entity" with
    | none => exact iff_of_false nofun fun parts => nomatch parts.2.1
    | some e => simp [bind_eq_ok_iff, text_eq_ok_iff, object]
  | _ => exact iff_of_false nofun fun parts => nomatch parts.2.1

end Items

end TypedFilters.Descriptor
