import TypedFilters.Json.Typed

/-!
# What the reader of JSON does by the first character

One equation for each kind of value that can stand at the front of a text, and what a whole text that
is read looks like.
-/

namespace TypedFilters.Json

variable {cs rest : List Char} {depth : Nat}

theorem value_of_bracket (front : skipSpace cs = '[' :: rest) :
    value (depth + 1) cs =
      (items (value depth) (rest.length + 1) [] true rest).map fun read => (.array read.1, read.2) := by
  unfold value
  rw [front]
  rfl

theorem value_of_brace (front : skipSpace cs = '{' :: rest) :
    value (depth + 1) cs =
      (members (addMember (value depth)) (rest.length + 1) [] true rest).map fun read =>
        (.object (collect read.1.reverse), read.2) := by
  unfold value
  rw [front]
  rfl

theorem value_of_other (array : ∀ after, skipSpace cs ≠ '[' :: after)
    (object : ∀ after, skipSpace cs ≠ '{' :: after) : value depth cs = scalar (skipSpace cs) := by
  unfold value
  split
  · next eq => exact absurd eq (array _)
  · next eq => exact absurd eq (object _)
  · next eq => exact absurd eq (array _)
  · next eq => exact absurd eq (object _)
  · rfl

/-- A scalar is neither an array nor an object. -/
theorem not_nested_of_scalar {v : Value} (read : scalar cs = .ok (v, rest)) :
    (∀ vs, v ≠ .array vs) ∧ ∀ ms, v ≠ .object ms := by
  have mapped : ∀ {α} (r : Except Failure α) (f : α → Value × List Char),
      r.map f = .ok (v, rest) → (∀ x, (∀ vs, (f x).1 ≠ .array vs) ∧ ∀ ms, (f x).1 ≠ .object ms) →
        (∀ vs, v ≠ .array vs) ∧ ∀ ms, v ≠ .object ms := by
    intro α r f eq flat
    cases r with
    | error e => cases eq
    | ok x =>
      have taken : (f x).1 = v := congrArg Prod.fst (Except.ok.inj eq)
      exact taken ▸ flat x
  unfold scalar at read
  split at read
  · cases read
  · exact mapped _ _ read fun _ => ⟨nofun, nofun⟩
  · exact mapped _ _ read fun _ => ⟨nofun, nofun⟩
  · exact mapped _ _ read fun _ => ⟨nofun, nofun⟩
  · exact mapped _ _ read fun _ => ⟨nofun, nofun⟩
  · split at read
    · exact mapped _ _ read fun _ => ⟨nofun, nofun⟩
    · cases read

/-- Without an opening bracket no array is read. -/
theorem value_ne_array {vs : List Value} (array : ∀ after, skipSpace cs ≠ '[' :: after) :
    value (depth + 1) cs ≠ .ok (.array vs, rest) := by
  by_cases object : ∃ after, skipSpace cs = '{' :: after
  · rcases object with ⟨after, front⟩
    rw [value_of_brace front]
    cases members (addMember (value depth)) (after.length + 1) [] true after with
    | error e => exact nofun
    | ok read => exact fun eq => nomatch congrArg Prod.fst (Except.ok.inj eq)
  · rw [value_of_other array fun after front => object ⟨after, front⟩]
    exact fun read => (not_nested_of_scalar read).1 vs rfl

theorem unexpected_ne_ok {α : Type} {expected : String} {x : α} :
    unexpected expected cs ≠ .ok x := by
  unfold unexpected
  split <;> exact nofun

/-- A whole text is read when its reader leaves nothing but white space. -/
theorem whole_eq_ok_iff {α : Type} {reader : Reader α} {text : String} {x : α} :
    whole reader text = .ok x ↔
      ∃ rest, reader text.toList = .ok (x, rest) ∧ skipSpace rest = [] := by
  unfold whole
  dsimp only [finished]
  cases reader text.toList with
  | error f =>
    refine iff_of_false nofun ?_
    intro parts
    rcases parts with ⟨_, eq, _⟩
    cases eq
  | ok read =>
    rcases read with ⟨y, left⟩
    dsimp only
    cases space : skipSpace left with
    | nil =>
      constructor
      · intro eq
        cases eq
        exact ⟨left, rfl, space⟩
      · intro parts
        rcases parts with ⟨_, eq, _⟩
        cases eq
        rfl
    | cons c after =>
      refine iff_of_false nofun ?_
      intro parts
      rcases parts with ⟨_, eq, blank⟩
      cases eq
      rw [space] at blank
      cases blank

end TypedFilters.Json
