import TypedFilters.Proofs.Json.Numbers
import TypedFilters.Proofs.Json.Objects

/-!
# Values that are read

Not every value is read from a text: the names of an object that is read are distinct, and a number that is
read is an integer of up to 64 bits or a finite double. What is said here of a value that is read holds all
the way down, since its items and members are values that are read themselves (`Value.IsRead`).
-/

namespace TypedFilters.Json

/-- The value is read from some text, at some depth of nesting. -/
def Value.IsRead (v : Value) : Prop :=
  ∃ depth cs rest, value depth cs = .ok (v, rest)

/-! ## What lists and objects are made of -/

section Inside

variable {α : Type} {item : Reader α} {P : α → Prop} {n : Nat} {first : Bool} {cs rest : List Char}

/-- What holds of all that the reader of items takes holds of all items. -/
theorem forall_of_items {read xs : List α} (each : ∀ {cs x rest}, item cs = .ok (x, rest) → P x)
    (before : ∀ x ∈ read, P x) (taken : items item n read first cs = .ok (xs, rest)) :
    ∀ x ∈ xs, P x := by
  induction n generalizing read first cs with
  | zero => cases taken
  | succ n ih =>
    rw [items] at taken
    split at taken
    · cases taken
    · cases taken
      exact fun x mem => before x (List.mem_reverse.mp mem)
    · split at taken
      · cases taken
      · next one => exact ih (List.forall_mem_cons.mpr ⟨each one, before⟩) taken

/-- What holds of all that the reader of values takes holds of the values of all members. -/
theorem forall_of_members {read ms : List (String × α)}
    (each : ∀ {cs x rest}, item cs = .ok (x, rest) → P x) (before : ∀ m ∈ read, P m.2)
    (taken : members (addMember item) n read first cs = .ok (ms, rest)) : ∀ m ∈ ms, P m.2 := by
  refine keeps_of_members (P := fun ms => ∀ m ∈ ms, P m.2) ?_ before taken
  intro name kept cs next rest before added
  obtain ⟨x, one, rfl⟩ := addMember_eq_ok_iff.mp added
  rw [afterColon] at one
  split at one
  · cases one
  · exact List.forall_mem_cons.mpr ⟨each one, before⟩

theorem mem_of_mem_insert {name : String} {v : Value} {kept : List (String × Value)} {m : String × Value}
    (mem : m ∈ insert name v kept) : m = (name, v) ∨ m ∈ kept := by
  induction kept with
  | nil => exact .inl (List.mem_singleton.mp mem)
  | cons other kept ih =>
    rw [insert] at mem
    split at mem
    · rcases List.mem_cons.mp mem with rfl | mem
      · exact .inl rfl
      · exact .inr (List.mem_cons_of_mem _ mem)
    · rcases List.mem_cons.mp mem with rfl | mem
      · exact .inr List.mem_cons_self
      · exact (ih mem).imp_right (List.mem_cons_of_mem _)

/-- Collecting members makes no new ones. -/
theorem mem_of_mem_collect {ms : List (String × Value)} {m : String × Value} (mem : m ∈ collect ms) :
    m ∈ ms := by
  induction ms using List.reverseRecOn with
  | nil => exact mem
  | append_singleton ms last ih =>
    rw [collect_concat] at mem
    rcases mem_of_mem_insert mem with rfl | mem
    · exact List.mem_append_right _ List.mem_cons_self
    · exact List.mem_append_left _ (ih mem)

end Inside

/-! ## One value -/

section One

variable {depth : Nat} {cs rest : List Char} {v : Value}

/-- A value that is read is an array of items, an object of members, or a scalar. -/
theorem cases_of_value (read : value depth cs = .ok (v, rest)) :
    (∃ d after vs, items (value d) (after.length + 1) [] true after = .ok (vs, rest) ∧ .array vs = v) ∨
    (∃ d after ms, members (addMember (value d)) (after.length + 1) [] true after = .ok (ms, rest) ∧
      .object (collect ms.reverse) = v) ∨
    scalar (skipSpace cs) = .ok (v, rest) := by
  unfold value at read
  split at read
  · cases read
  · cases read
  · next d after _ =>
    obtain ⟨found, taken, same⟩ := map_eq_ok_iff.mp read
    cases same
    exact .inl ⟨d, after, found.1, taken, rfl⟩
  · next d after _ =>
    obtain ⟨found, taken, same⟩ := map_eq_ok_iff.mp read
    cases same
    exact .inr (.inl ⟨d, after, found.1, taken, rfl⟩)
  · exact .inr (.inr read)

/-- A number is read as a value where the reader of numbers takes it. -/
theorem number_of_scalar {n : Number} (read : scalar cs = .ok (.number n, rest)) :
    number cs = .ok (n, rest) := by
  unfold scalar at read
  split at read
  · cases read
  · obtain ⟨_, _, other⟩ := map_eq_ok_iff.mp read
    cases other
  · obtain ⟨_, _, other⟩ := map_eq_ok_iff.mp read
    cases other
  · obtain ⟨_, _, other⟩ := map_eq_ok_iff.mp read
    cases other
  · obtain ⟨_, _, other⟩ := map_eq_ok_iff.mp read
    cases other
  · split at read
    · obtain ⟨found, taken, same⟩ := map_eq_ok_iff.mp read
      cases same
      exact taken
    · cases read

end One

namespace Value.IsRead

variable {vs : List Value} {ms : List (String × Value)}

theorem item (read : (Value.array vs).IsRead) : ∀ v ∈ vs, v.IsRead := by
  rcases read with ⟨depth, cs, rest, read⟩
  rcases cases_of_value read with ⟨d, _, _, taken, same⟩ | ⟨_, _, _, _, other⟩ | flat
  · cases same
    exact forall_of_items (fun one => ⟨d, _, _, one⟩) (List.forall_mem_nil _) taken
  · cases other
  · exact absurd rfl ((not_nested_of_scalar flat).1 vs)

theorem members (read : (Value.object ms).IsRead) :
    (ms.map Prod.fst).Nodup ∧ ∀ m ∈ ms, m.2.IsRead := by
  rcases read with ⟨depth, cs, rest, read⟩
  rcases cases_of_value read with ⟨_, _, _, _, other⟩ | ⟨d, _, _, taken, same⟩ | flat
  · cases other
  · cases same
    refine ⟨nodup_collect _, fun m mem => ?_⟩
    exact @forall_of_members _ _ Value.IsRead _ _ _ _ _ _ (fun one => ⟨d, _, _, one⟩) (List.forall_mem_nil _)
      taken m (List.mem_reverse.mp (mem_of_mem_collect mem))
  · exact absurd rfl ((not_nested_of_scalar flat).2 ms)

theorem inRange {n : Number} (read : (Value.number n).IsRead) : n.InRange := by
  rcases read with ⟨depth, cs, rest, read⟩
  rcases cases_of_value read with ⟨_, _, _, _, other⟩ | ⟨_, _, _, _, other⟩ | flat
  · cases other
  · cases other
  · exact (number_extends (number_of_scalar flat)).1

end Value.IsRead

theorem isRead_of_document {text : String} {v : Value} (read : document text = .ok v) : v.IsRead := by
  obtain ⟨rest, taken, _⟩ := whole_eq_ok_iff.mp read
  exact ⟨_, _, rest, taken⟩

end TypedFilters.Json
