import TypedFilters.Proofs.Session

/-!
# The catalogue that is printed

A client gets the catalogue of an entity as a text. The text is read back as an array with one object for
each entry, in the order of declaration, which tells of the entry and of nothing else (`FieldInfo.ToldBy`).
Since the tables are sound, it lists values just for enumerations.
-/

namespace TypedFilters

open Json (Value Readable)

namespace FieldInfo

/-- The names that an entry of the catalogue has room for. -/
def memberNames : List String :=
  ["name", "kind", "operators", "enum_values", "requires_key"]

/-- The value is an object that tells what is published of a field, and nothing else. -/
structure ToldBy (info : FieldInfo) (v : Value) : Prop where
  names : ∃ ms, v = .object ms ∧ (ms.map Prod.fst).Nodup ∧ ∀ m ∈ ms, m.1 ∈ memberNames
  name : v.member? "name" = some (.string info.name)
  kind : v.member? "kind" = some (.string info.kind.name)
  operators : v.member? "operators" = some (.array (info.operators.map fun op => .string op.name))
  choices : v.member? "enum_values" =
    if info.kind = .enum then some (.array (info.choices.map .string)) else none
  needsKey : v.member? "requires_key" = some (.bool info.needsKey)

theorem nodup_memberNames : memberNames.Nodup := by
  decide

theorem readable_strings (texts : List String) {depth : Nat} :
    Readable (depth + 1) (.array (texts.map .string)) :=
  .array (List.forall_mem_map.mpr fun _ _ => .string)

/-- The form of an entry can be read back, since its names are distinct. -/
theorem readable_toJson (info : FieldInfo) {depth : Nat} : Readable (depth + 2) info.toJson := by
  have operators : info.operators.map (fun op => Value.string op.name) =
      (info.operators.map Operator.name).map .string := (List.map_map ..).symm
  rw [toJson, operators]
  cases info.choices with
  | nil =>
    refine .object (show ["name", "kind", "operators", "requires_key"].Nodup by decide) ?_
    simp only [List.isEmpty_nil, if_true, List.append_nil, List.cons_append, List.nil_append,
      List.forall_mem_cons]
    exact ⟨.string, .string, readable_strings _, .bool, List.forall_mem_nil _⟩
  | cons choice choices =>
    refine .object nodup_memberNames ?_
    simp only [List.isEmpty_cons, Bool.false_eq_true, if_false, List.cons_append, List.nil_append,
      List.forall_mem_cons]
    exact ⟨.string, .string, readable_strings _, readable_strings _, .bool, List.forall_mem_nil _⟩

/-- A sound entry is told by its form. -/
theorem Sound.toldBy {info : FieldInfo} (sound : info.Sound) : info.ToldBy info.toJson := by
  rw [toJson]
  cases listed : info.choices with
  | nil =>
    have other : info.kind ≠ .enum := fun enum => sound.choices.mpr enum listed
    exact ⟨⟨_, rfl, show ["name", "kind", "operators", "requires_key"].Nodup by decide, by simp [memberNames]⟩,
      rfl, rfl, rfl, (if_neg other).symm, rfl⟩
  | cons choice choices =>
    have enum : info.kind = .enum := sound.choices.mp (listed ▸ List.cons_ne_nil choice choices)
    refine ⟨⟨_, rfl, nodup_memberNames, by simp [memberNames]⟩, rfl, rfl, rfl, ?_, rfl⟩
    rw [if_pos enum, listed]
    rfl

end FieldInfo

namespace Session

/-- The catalogue is printed as a text that is read back as one object for each entry, in their order. -/
theorem listFields_told (entity : Entity) : (listFields entity).error? = none ∧
    ∃ vs, Json.document (listFields entity).stdout = .ok (.array vs) ∧
      List.Forall₂ FieldInfo.ToldBy entity.published vs := by
  have readable : Readable Json.maxDepth entity.catalogue :=
    .array (List.forall_mem_map.mpr fun info _ => info.readable_toJson)
  have sound := (catalogueFault?_eq_none_iff.mp catalogueFault?_eq_none entity).1
  rw [listFields, serializeItems_published]
  refine ⟨rfl, _, Json.document_pretty_line readable, ?_⟩
  rw [List.forall₂_map_right_iff, List.forall₂_same]
  exact fun info mem => (sound info mem).toldBy

/-- A run that is asked for the catalogue of an entity prints it. -/
theorem catalogue_printed {zone? : String → Option Zone} {files : Files Id} {stdin : List UInt8}
    {env : Environment} {words : List String} {line : CommandLine} {settings : Settings} {entity : Entity}
    (read : CommandLine.read (Id.run (EnvFile.load files env)) words = .ok line)
    (command : line.command = .fields entity)
    (loaded : Settings.loaded zone? files line.overrides = .ok settings) :
    (outcome zone? files stdin env words).exitStatus = 0 ∧
      ∃ vs, Json.document (outcome zone? files stdin env words).stdout = .ok (.array vs) ∧
        List.Forall₂ FieldInfo.ToldBy entity.published vs := by
  obtain ⟨accepted, told⟩ := listFields_told entity
  rw [outcome_of_read read, follow_of_loaded loaded, command, carryOut]
  exact ⟨by simp [conclude, accepted], told⟩

end Session

end TypedFilters
