import TypedFilters.Catalogue
import TypedFilters.Proofs.Text.Trimming

/-!
# Names are looked up

The canonical name of an operator, an entity or a field names it, and every enumerated value of a field
has no blanks around it. No name is that of two operators, or of two fields of an entity, so a look-up
finds what has the name wherever it stands in its list (`Operator.named?_eq_some_iff`,
`Entity.field?_eq_some_iff`). What is published of an entity describes just the fields that can be looked
up (`Entity.describe_mem_published`). The check of the tables passes just what is sound
(`catalogueFault?_eq_none_iff`), and it passes the tables (`catalogueFault?_eq_none`).
-/

namespace TypedFilters

theorem Operator.named?_name (op : Operator) : Operator.named? op.name = some op := by
  cases op <;> decide +kernel

theorem Entity.named?_name (entity : Entity) : Entity.named? entity.name = some entity := by
  cases entity <;> decide +kernel

/-- No two fields of an entity share a name, and no name has blanks around it. -/
theorem Entity.field?_name {entity : Entity} {field : Field} (mem : field ∈ entity.fields) :
    entity.field? field.name = some field := by
  have all : ∀ f ∈ entity.fields, entity.field? f.name = some f := by
    cases entity <;> decide +kernel
  exact all field mem

theorem Entity.trim_choice {entity : Entity} {field : Field} (mem : field ∈ entity.fields) :
    ∀ choice ∈ field.choices, Text.trim choice = choice ∧ choice ≠ "" := by
  have all : ∀ f ∈ entity.fields, ∀ choice ∈ f.choices, Text.trim choice = choice ∧ choice ≠ "" := by
    cases entity <;> decide +kernel
  exact all field mem

/-- A text names the operators of which it is, trimmed and in lower case, the name or an alias. -/
def Operator.IsNamed (op : Operator) (text : String) : Prop :=
  Text.lower (Text.trim text) = op.name ∨ Text.lower (Text.trim text) ∈ op.aliases

/-- An operator is looked up under exactly the texts that name it. -/
theorem Operator.named?_eq_some_iff {text : String} {op : Operator} :
    Operator.named? text = some op ↔ op.IsNamed text := by
  have spelled : ∀ op ∈ Operator.all, ∀ given ∈ op.name :: op.aliases,
      Operator.all.find? (fun o => given == o.name || o.aliases.contains given) = some op := by
    decide +kernel
  have listed : op ∈ Operator.all := by cases op <;> decide
  constructor
  · intro found
    have named := List.find?_some found
    simpa only [IsNamed, Bool.or_eq_true, beq_iff_eq, List.contains_iff_mem] using named
  · intro named
    have given : Text.lower (Text.trim text) ∈ op.name :: op.aliases := List.mem_cons.mpr named
    exact spelled op listed (Text.lower (Text.trim text)) given

/-- A field is looked up under exactly its own name, with any blanks around it. -/
theorem Entity.field?_eq_some_iff {entity : Entity} {text : String} {field : Field} :
    entity.field? text = some field ↔ field ∈ entity.fields ∧ field.name = Text.trim text := by
  constructor
  · intro found
    have named := List.find?_some found
    exact ⟨List.mem_of_find?_eq_some found, beq_iff_eq.mp named⟩
  · intro entry
    rcases entry with ⟨mem, name⟩
    -- The look-up trims the name of the field too, which changes nothing.
    have found := Entity.field?_name mem
    rwa [name, Entity.field?, (Text.isTrimmed_trim text).trim_eq] at found

/-! ## What is published -/

theorem Field.describe_injective : Function.Injective Field.describe := by
  rintro ⟨name, kind, choices⟩ ⟨name', kind', choices'⟩ same
  simp only [describe, FieldInfo.mk.injEq] at same
  rcases same with ⟨rfl, rfl, _, rfl, _⟩
  rfl

/-- What is published of an entity are the descriptions of its fields. -/
theorem Entity.describe_mem_published {entity : Entity} {field : Field} :
    field.describe ∈ entity.published ↔ field ∈ entity.fields :=
  List.mem_map_of_injective Field.describe_injective

/-! ## The check of the tables -/

/-- A description is sound: some operator is permitted, and values are listed just for enumerations. -/
structure FieldInfo.Sound (info : FieldInfo) : Prop where
  operators : info.operators ≠ []
  choices : info.choices ≠ [] ↔ info.kind = .enum

/-- A description is passed if it is sound and its name is new, and then the check goes on. -/
theorem Entity.firstFault?_cons_eq_none_iff {entity : Entity} {seen : List String} {info : FieldInfo}
    {rest : List FieldInfo} : entity.firstFault? seen (info :: rest) = none ↔
      info.Sound ∧ info.name ∉ seen ∧ entity.firstFault? (info.name :: seen) rest = none := by
  rw [firstFault?]
  split
  · next known => exact iff_of_false nofun fun passed => passed.2.1 known
  next new =>
  split
  · next none =>
    exact iff_of_false nofun fun passed => passed.1.operators (List.isEmpty_iff.mp none)
  next operators =>
  split
  · next unlisted =>
    rw [Bool.and_eq_true, beq_iff_eq, List.isEmpty_iff] at unlisted
    exact iff_of_false nofun fun passed => passed.1.choices.mpr unlisted.1 unlisted.2
  next listed =>
  split
  · next stray =>
    rw [Bool.and_eq_true, bne_iff_ne, Bool.not_eq_true', List.isEmpty_eq_false_iff] at stray
    exact iff_of_false nofun fun passed => stray.1 (passed.1.choices.mp stray.2)
  next strayless =>
  have sound : info.Sound := by
    refine ⟨fun none => operators (List.isEmpty_iff.mpr none), fun values => ?_, fun enum none => ?_⟩
    · by_contra other
      exact strayless (by simp [other, values])
    · exact listed (by simp [enum, none])
  exact ⟨fun passed => ⟨sound, new, passed⟩, fun passed => passed.2.2⟩

/-- No mistake is found in descriptions just if each is sound and their names are new and distinct. -/
theorem Entity.firstFault?_eq_none_iff {entity : Entity} {seen : List String} {infos : List FieldInfo} :
    entity.firstFault? seen infos = none ↔ (∀ info ∈ infos, info.Sound ∧ info.name ∉ seen) ∧
      (infos.map FieldInfo.name).Nodup := by
  induction infos generalizing seen with
  | nil => exact iff_of_true rfl ⟨List.forall_mem_nil _, List.nodup_nil⟩
  | cons info rest ih =>
    rw [firstFault?_cons_eq_none_iff, ih, List.forall_mem_cons, List.map_cons, List.nodup_cons]
    simp only [List.mem_cons, not_or, List.mem_map, not_exists, not_and]
    constructor
    · intro passed
      rcases passed with ⟨sound, new, each, distinct⟩
      exact ⟨⟨⟨sound, new⟩, fun other mem => ⟨(each other mem).1, (each other mem).2.2⟩⟩,
        fun other mem => (each other mem).2.1, distinct⟩
    · intro good
      rcases good with ⟨⟨⟨sound, new⟩, each⟩, own, distinct⟩
      exact ⟨sound, new, fun other mem => ⟨(each other mem).1, own other mem, (each other mem).2⟩, distinct⟩

/-- The tables are passed just if what is published of each entity is sound and has distinct names. -/
theorem catalogueFault?_eq_none_iff : catalogueFault? = none ↔ ∀ entity : Entity,
    (∀ info ∈ entity.published, info.Sound) ∧ (entity.published.map FieldInfo.name).Nodup := by
  have listed : ∀ entity : Entity, entity ∈ Entity.all := by
    intro entity
    cases entity <;> decide
  simp only [catalogueFault?, List.findSome?_eq_none_iff, listed, true_imp_iff, Entity.tableFault?,
    Entity.firstFault?_eq_none_iff, List.not_mem_nil, not_false_eq_true, and_true]

/-- The tables have no mistake. -/
theorem catalogueFault?_eq_none : catalogueFault? = none := by
  decide +kernel

end TypedFilters
