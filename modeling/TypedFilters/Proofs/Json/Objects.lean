import Mathlib.Data.List.Induction
import Mathlib.Data.List.Nodup
import TypedFilters.Proofs.Json.Reading

/-!
# Objects as they are written

A value that is read keeps one value for each name of an object. `objects` reads a text that is an array
of objects and keeps all their members, in order, those that are given again included. It reads exactly
the texts that are read as arrays of objects, and the objects that are read from them have the members
that it keeps, collected (`document_eq_array_iff`). In a collected object the last value of a name counts
(`member?_collect`).
-/

namespace TypedFilters.Json

/-! ## The last value of a name -/

/-- The value that is given last under a name. -/
def last? (members : List (String × Value)) (name : String) : Option Value :=
  (Value.object members.reverse).member? name

section Names

variable {name other : String} {v : Value} {kept : List (String × Value)}

theorem last?_concat (members : List (String × Value)) (m : String × Value) (name : String) :
    last? (members ++ [m]) name = if m.1 = name then some m.2 else last? members name := by
  rw [last?, List.reverse_append, List.reverse_singleton, List.singleton_append, Value.member?,
    List.find?_cons]
  by_cases same : m.1 = name
  · rw [if_pos same, beq_iff_eq.mpr same]
    rfl
  · rw [if_neg same, beq_eq_false_iff_ne.mpr same]
    rfl

/-- Where no name is given twice, every value is the last of its name. -/
theorem last?_of_mem {members : List (String × Value)} (distinct : (members.map Prod.fst).Nodup)
    {m : String × Value} (given : m ∈ members) : last? members m.1 = some m.2 := by
  induction members using List.reverseRecOn with
  | nil => cases given
  | append_singleton members last ih =>
    rw [List.map_append, List.map_singleton, List.nodup_append] at distinct
    rw [last?_concat]
    rcases List.mem_append.mp given with before | here
    · have other : last.1 ≠ m.1 := fun same =>
        distinct.2.2 _ (List.mem_map_of_mem before) _ List.mem_cons_self same.symm
      rw [if_neg other, ih distinct.1 before]
    · rw [List.mem_singleton.mp here, if_pos rfl]

theorem member?_cons (m : String × Value) :
    (Value.object (m :: kept)).member? name =
      if m.1 = name then some m.2 else (Value.object kept).member? name := by
  rw [Value.member?, List.find?_cons]
  by_cases same : m.1 = name
  · rw [if_pos same, beq_iff_eq.mpr same]
    rfl
  · rw [if_neg same, beq_eq_false_iff_ne.mpr same]
    rfl

/-- A value that is put under a name is found there, and every other value where it was. -/
theorem member?_insert :
    (Value.object (insert name v kept)).member? other =
      if name = other then some v else (Value.object kept).member? other := by
  induction kept with
  | nil => rw [insert, member?_cons]
  | cons m kept ih =>
    rw [insert]
    by_cases same : m.1 = name
    · rw [if_pos same, member?_cons, member?_cons, same]
      by_cases asked : name = other
      · rw [if_pos asked, if_pos asked]
      · rw [if_neg asked, if_neg asked, if_neg asked]
    · rw [if_neg same, member?_cons, member?_cons, ih]
      by_cases asked : name = other
      · rw [if_pos asked, if_neg (asked ▸ same), if_pos asked]
      · rw [if_neg asked, if_neg asked]

theorem mem_names_insert :
    other ∈ (insert name v kept).map Prod.fst ↔ other = name ∨ other ∈ kept.map Prod.fst := by
  induction kept with
  | nil => rw [insert, List.map_singleton, List.mem_singleton, List.map_nil, List.mem_nil_iff, or_false]
  | cons m kept ih =>
    rw [insert]
    by_cases same : m.1 = name
    · rw [if_pos same, List.map_cons, List.mem_cons, List.map_cons, List.mem_cons, same]
      simp only [or_self_left]
    · rw [if_neg same, List.map_cons, List.mem_cons, ih, List.map_cons, List.mem_cons]
      exact or_left_comm

theorem nodup_insert (distinct : (kept.map Prod.fst).Nodup) :
    ((insert name v kept).map Prod.fst).Nodup := by
  induction kept with
  | nil => exact List.nodup_singleton name
  | cons m kept ih =>
    rw [List.map_cons, List.nodup_cons] at distinct
    rw [insert]
    by_cases same : m.1 = name
    · rw [if_pos same, List.map_cons, List.nodup_cons]
      exact same ▸ distinct
    · rw [if_neg same, List.map_cons, List.nodup_cons, mem_names_insert, not_or]
      exact ⟨⟨same, distinct.1⟩, ih distinct.2⟩

theorem collect_concat (members : List (String × Value)) (m : String × Value) :
    collect (members ++ [m]) = insert m.1 m.2 (collect members) := by
  rw [collect, List.foldl_concat]
  rfl

/-- In a collected object the last value of a name counts. -/
theorem member?_collect (members : List (String × Value)) (name : String) :
    (Value.object (collect members)).member? name = last? members name := by
  induction members using List.reverseRecOn with
  | nil => rfl
  | append_singleton members m ih => rw [collect_concat, member?_insert, ih, last?_concat]

/-- Of members that are kept with the last one first, the first value of a name counts. -/
theorem member?_collect_reverse (kept : List (String × Value)) (name : String) :
    (Value.object (collect kept.reverse)).member? name = (Value.object kept).member? name := by
  rw [member?_collect, last?, List.reverse_reverse]

/-- No name is given twice in a collected object. -/
theorem nodup_collect (members : List (String × Value)) :
    ((collect members).map Prod.fst).Nodup := by
  induction members using List.reverseRecOn with
  | nil => exact List.nodup_nil
  | append_singleton members m ih =>
    rw [collect_concat]
    exact nodup_insert ih

end Names

/-! ## Going through members -/

section Members

variable {cs rest : List Char} {first : Bool} {n : Nat}

/-- The members end, or there is one more in front of the others. -/
theorem members_succ_eq_ok_iff {σ : Type} {member : String → σ → Reader σ} {state final : σ} :
    members member (n + 1) state first cs = .ok (final, rest) ↔
      (∃ after, nextName first cs = .ok (.done after) ∧ state = final ∧ after.drop 1 = rest) ∨
      ∃ named name after next behind, nextName first cs = .ok (.item named) ∧
        string named = .ok (name, after) ∧ member name state after = .ok (next, behind) ∧
        members member n next false behind = .ok (final, rest) := by
  rw [members]
  cases nextName first cs with
  | error e => simp
  | ok found =>
    cases found with
    | done after => simp
    | item named =>
      cases read : string named with
      | error e => simp [read]
      | ok taken =>
        rcases taken with ⟨name, after⟩
        cases added : member name state after with
        | error e => simp [read, added]
        | ok step =>
          rcases step with ⟨next, behind⟩
          simp [read, added]

/-- What each member keeps, an object keeps. -/
theorem keeps_of_members {σ : Type} {member : String → σ → Reader σ} {P : σ → Prop}
    (keeps : ∀ {name state cs next rest}, P state → member name state cs = .ok (next, rest) → P next)
    {state final : σ} (start : P state) (taken : members member n state first cs = .ok (final, rest)) :
    P final := by
  induction n generalizing state first cs with
  | zero => cases taken
  | succ n ih =>
    rcases members_succ_eq_ok_iff.mp taken with ⟨_, _, rfl, _⟩ | ⟨_, _, _, _, _, _, _, added, taken⟩
    · exact start
    · exact ih (keeps start added) taken

theorem map_eq_ok_iff {ε α β : Type} {r : Except ε α} {f : α → β} {y : β} :
    r.map f = .ok y ↔ ∃ x, r = .ok x ∧ f x = y := by
  cases r <;> simp [Except.map]

theorem bind_eq_ok_iff {ε α β : Type} {r : Except ε α} {f : α → Except ε β} {y : β} :
    (r >>= f) = .ok y ↔ ∃ x, r = .ok x ∧ f x = .ok y := by
  cases r <;> simp [bind, Except.bind]

theorem addMember_eq_ok_iff {α : Type} {item : Reader α} {name : String}
    {read ms : List (String × α)} : addMember item name read cs = .ok (ms, rest) ↔
      ∃ x, afterColon item cs = .ok (x, rest) ∧ (name, x) :: read = ms := by
  rw [addMember]
  cases afterColon item cs with
  | error e => simp [Except.map]
  | ok taken =>
    rcases taken with ⟨x, after⟩
    simp [Except.map, and_comm]

end Members

/-! ## Lists read by two readers -/

section Items

variable {α β : Type} {item : Reader α} {item' : Reader β} {f : β → α} {n : Nat} {first : Bool}
  {cs rest : List Char}

/-- A list keeps what was read of it before. -/
theorem exists_append_of_items {read xs : List α}
    (items_eq : items item n read first cs = .ok (xs, rest)) : ∃ more, read.reverse ++ more = xs := by
  induction n generalizing read first cs with
  | zero => cases items_eq
  | succ n ih =>
    rw [items] at items_eq
    split at items_eq
    · cases items_eq
    · cases items_eq
      exact ⟨[], List.append_nil _⟩
    · split at items_eq
      · cases items_eq
      · next x _ _ =>
        obtain ⟨more, rfl⟩ := ih items_eq
        exact ⟨x :: more, by rw [List.reverse_cons, List.append_assoc, List.singleton_append]⟩

/-- Where one reader takes an item, the other takes its image. -/
theorem items_map
    (each : ∀ {cs y rest}, item' cs = .ok (y, rest) → item cs = .ok (f y, rest)) {read ys : List β}
    (items_eq : items item' n read first cs = .ok (ys, rest)) :
    items item n (read.map f) first cs = .ok (ys.map f, rest) := by
  induction n generalizing read first cs with
  | zero => cases items_eq
  | succ n ih =>
    rw [items] at items_eq ⊢
    split at items_eq
    · cases items_eq
    · cases items_eq
      rw [List.map_reverse]
    · split at items_eq
      · cases items_eq
      · next one =>
        rw [each one]
        exact ih items_eq

/-- Where one reader takes an item of a sort, the other takes what it is the image of. -/
theorem exists_of_items {P : α → Prop}
    (each : ∀ {cs x rest}, item cs = .ok (x, rest) → P x → ∃ y, item' cs = .ok (y, rest) ∧ f y = x)
    {read : List β} {xs : List α} (sort : ∀ x ∈ xs, P x)
    (items_eq : items item n (read.map f) first cs = .ok (xs, rest)) :
    ∃ ys, items item' n read first cs = .ok (ys, rest) ∧ ys.map f = xs := by
  induction n generalizing read first cs with
  | zero => cases items_eq
  | succ n ih =>
    rw [items] at items_eq ⊢
    split at items_eq
    · cases items_eq
    · cases items_eq
      exact ⟨read.reverse, rfl, List.map_reverse⟩
    · split at items_eq
      · cases items_eq
      · next x _ one =>
        -- What is read now is one of the items in the end, and so of the sort.
        have taken : x ∈ xs := by
          obtain ⟨more, rfl⟩ := exists_append_of_items items_eq
          exact List.mem_append_left _ (List.mem_reverse.mpr List.mem_cons_self)
        obtain ⟨y, one', rfl⟩ := each one (sort x taken)
        rw [one']
        exact ih items_eq

end Items

/-! ## Arrays of objects -/

/-- The members of an object in the order in which they are written. -/
def objectMembers (depth : Nat) : Reader (List (String × Value)) := fun cs =>
  match skipSpace cs with
  | '{' :: rest =>
    (members (addMember (value depth)) (rest.length + 1) [] true rest).map fun (ms, rest) =>
      (ms.reverse, rest)
  | cs => unexpected "a map" cs

/-- The members of each object of an array of objects. -/
def objectList (depth : Nat) : Reader (List (List (String × Value))) := fun cs =>
  match skipSpace cs with
  | '[' :: rest => items (objectMembers depth) (rest.length + 1) [] true rest
  | cs => unexpected "a sequence" cs

/-- The members of each object of a text that is an array of objects. -/
def objects (text : String) : Except Error (List (List (String × Value))) :=
  whole (objectList (maxDepth - 2)) text

/-- The object that is read from members. -/
def collected (members : List (String × Value)) : Value :=
  .object (collect members)

section Objects

variable {cs rest : List Char} {depth : Nat}

theorem objectMembers_of_brace {after : List Char} (front : skipSpace cs = '{' :: after) :
    objectMembers depth cs =
      (members (addMember (value depth)) (after.length + 1) [] true after).map fun read =>
        (read.1.reverse, read.2) := by
  unfold objectMembers
  rw [front]
  rfl

theorem objectList_of_bracket {after : List Char} (front : skipSpace cs = '[' :: after) :
    objectList depth cs = items (objectMembers depth) (after.length + 1) [] true after := by
  unfold objectList
  rw [front]
  rfl

theorem value_of_objectMembers {ms : List (String × Value)}
    (read : objectMembers depth cs = .ok (ms, rest)) :
    value (depth + 1) cs = .ok (collected ms, rest) := by
  unfold objectMembers at read
  split at read
  · next after front =>
    rw [value_of_brace front]
    cases inner : members (addMember (value depth)) (after.length + 1) [] true after with
    | error e =>
      rw [inner] at read
      cases read
    | ok taken =>
      rw [inner] at read
      cases read
      rfl
  · exact absurd read unexpected_ne_ok

/-- An object is read behind an opening brace. -/
theorem exists_brace_of_value {kept : List (String × Value)}
    (read : value (depth + 1) cs = .ok (.object kept, rest)) :
    ∃ after, skipSpace cs = '{' :: after := by
  by_contra brace
  rw [not_exists] at brace
  by_cases bracket : ∃ after, skipSpace cs = '[' :: after
  · rcases bracket with ⟨after, front⟩
    rw [value_of_bracket front] at read
    cases taken : items (value depth) (after.length + 1) [] true after with
    | error e =>
      rw [taken] at read
      cases read
    | ok vs =>
      rw [taken] at read
      cases read
  · rw [value_of_other (fun after front => bracket ⟨after, front⟩) brace] at read
    exact (not_nested_of_scalar read).2 kept rfl

theorem exists_of_value {kept : List (String × Value)}
    (read : value (depth + 1) cs = .ok (.object kept, rest)) :
    ∃ ms, objectMembers depth cs = .ok (ms, rest) ∧ collect ms = kept := by
  obtain ⟨after, front⟩ := exists_brace_of_value read
  rw [value_of_brace front] at read
  rw [objectMembers_of_brace front]
  cases inner : members (addMember (value depth)) (after.length + 1) [] true after with
  | error e =>
    rw [inner] at read
    cases read
  | ok taken =>
    rw [inner] at read
    cases read
    exact ⟨taken.1.reverse, rfl, rfl⟩

/-- The value is an object. -/
def Value.IsObject (v : Value) : Prop :=
  ∃ ms, v = .object ms

theorem value_eq_array_iff_of_bracket {after : List Char} {vs : List Value}
    (front : skipSpace cs = '[' :: after) :
    value (depth + 1) cs = .ok (.array vs, rest) ↔
      items (value depth) (after.length + 1) [] true after = .ok (vs, rest) := by
  rw [value_of_bracket front]
  cases items (value depth) (after.length + 1) [] true after with
  | error e => exact iff_of_false nofun nofun
  | ok read =>
    rcases read with ⟨read, left⟩
    simp only [Except.map, Except.ok.injEq, Prod.mk.injEq, Value.array.injEq]

/-- The members of the objects of an array are read exactly if the array is read and has only
objects. -/
theorem value_eq_array_iff {vs : List Value} :
    value (depth + 2) cs = .ok (.array vs, rest) ∧ (∀ v ∈ vs, v.IsObject) ↔
      ∃ mss, objectList depth cs = .ok (mss, rest) ∧ mss.map collected = vs := by
  by_cases bracket : ∃ after, skipSpace cs = '[' :: after
  · rcases bracket with ⟨after, front⟩
    rw [value_eq_array_iff_of_bracket front, objectList_of_bracket front]
    constructor
    · rintro ⟨read, sort⟩
      refine exists_of_items (P := Value.IsObject) ?_ sort read
      rintro cs x rest one ⟨kept, rfl⟩
      obtain ⟨ms, one', rfl⟩ := exists_of_value one
      exact ⟨ms, one', rfl⟩
    · rintro ⟨mss, read, rfl⟩
      refine ⟨items_map value_of_objectMembers read, ?_⟩
      simp only [List.forall_mem_map]
      exact fun ms _ => ⟨collect ms, rfl⟩
  · rw [not_exists] at bracket
    refine iff_of_false (fun h => value_ne_array bracket h.1) ?_
    rintro ⟨mss, read, _⟩
    unfold objectList at read
    split at read
    · next after front => exact bracket after front
    · exact unexpected_ne_ok read

end Objects

/-- The texts that are read as arrays of objects are those whose objects are read with all their members,
and the same objects are read. -/
theorem document_eq_array_iff {text : String} {vs : List Value} :
    document text = .ok (.array vs) ∧ (∀ v ∈ vs, v.IsObject) ↔
      ∃ mss, objects text = .ok mss ∧ mss.map collected = vs := by
  have array := fun rest => @value_eq_array_iff text.toList rest (maxDepth - 2) vs
  simp only [document, objects, whole_eq_ok_iff]
  constructor
  · rintro ⟨⟨rest, read, blank⟩, sort⟩
    obtain ⟨mss, each, collects⟩ := (array rest).mp ⟨read, sort⟩
    exact ⟨mss, ⟨rest, each, blank⟩, collects⟩
  · rintro ⟨mss, ⟨rest, read, blank⟩, collects⟩
    obtain ⟨read, sort⟩ := (array rest).mpr ⟨mss, read, collects⟩
    exact ⟨⟨rest, read, blank⟩, sort⟩

end TypedFilters.Json
