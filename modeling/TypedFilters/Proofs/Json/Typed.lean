import TypedFilters.Proofs.Json.RoundTrip
import TypedFilters.Proofs.Json.Skipping

/-!
# Readers of typed data and the reader of values

A reader of typed data takes what it expects directly from the text. It agrees with the reader of values:
where both take something, they take the same part of the text, and the value stands for the data
(`Agrees`). Strings and sizes agree, and so does what may be `null` instead (`Agrees.optional`). Two readers
of members that agree on each member go through an object together (`agree_of_members`), whatever they take
from it, since a member that is passed over by the one is read by the other up to the same place
(`eq_of_skipValue`).
-/

namespace TypedFilters.Json

/-- Where the reader and the reader of values both take something, they take the same part of the text, and
the value stands for what the reader takes. -/
def Agrees {α : Type} (depth : Nat) (reader : Reader α) (Stands : Value → α → Prop) : Prop :=
  ∀ ⦃cs rest rest' : List Char⦄ ⦃x : α⦄ ⦃v : Value⦄, reader cs = .ok (x, rest) →
    value depth cs = .ok (v, rest') → rest = rest' ∧ Stands v x

/-- The value stands for something, or is `null` and stands for nothing. -/
inductive Optionally {α : Type} (Stands : Value → α → Prop) : Value → Option α → Prop
  | null : Optionally Stands .null none
  | given {v : Value} {x : α} (stands : Stands v x) : Optionally Stands v (some x)

section Readers

variable {α β σ : Type} {depth n : Nat} {first : Bool} {reader : Reader α} {Stands : Value → α → Prop}
  {cs after rest rest' : List Char} {v : Value}

theorem agrees_of_value (taken : ∀ {cs rest x}, reader cs = .ok (x, rest) →
    ∃ v, value depth cs = .ok (v, rest) ∧ Stands v x) : Agrees depth reader Stands := by
  intro cs rest rest' x v read valued
  obtain ⟨v', valued', stands⟩ := taken read
  cases valued.symm.trans valued'
  exact ⟨rfl, stands⟩

theorem value_skipSpace (depth : Nat) (cs : List Char) : value depth (skipSpace cs) = value depth cs := by
  unfold value
  rw [skipSpace_skipSpace]

theorem value_of_quote (front : skipSpace cs = '"' :: after) :
    value depth cs = (string after).map fun taken => (.string taken.1, taken.2) := by
  rw [value_of_other (by rw [front]; exact nofun) (by rw [front]; exact nofun), front]
  rfl

theorem value_of_null (front : skipSpace cs = 'n' :: after) (null : word ['u', 'l', 'l'] after = .ok rest) :
    value depth cs = .ok (.null, rest) := by
  rw [value_of_other (by rw [front]; exact nofun) (by rw [front]; exact nofun), front, scalar, null]
  rfl

theorem agrees_typedString {expected : String} :
    Agrees depth (typedString expected) fun v s => v = .string s := by
  refine agrees_of_value fun {cs rest s} read => ⟨_, ?_, rfl⟩
  unfold typedString at read
  split at read
  · next after front => rw [value_of_quote front, read, Except.map]
  · exact absurd read unexpected_ne_ok

theorem agrees_typedSize : Agrees depth typedSize fun v n => v = .number (.integer n) := by
  refine agrees_of_value fun {cs rest n} read => ⟨_, ?_, rfl⟩
  unfold typedSize at read
  split at read
  · cases read
  · next c after front =>
    split at read
    · next starts =>
      rw [← value_skipSpace, front]
      split at read
      · cases read
      · next number =>
        cases read
        exact value_of_number starts number
      · cases read
      · cases read
    · exact absurd read unexpected_ne_ok

theorem Agrees.optional (agrees : Agrees depth reader Stands) :
    Agrees depth (optional reader) (Optionally Stands) := by
  intro cs rest rest' x? v read valued
  unfold Json.optional at read
  split at read
  · next after front =>
    obtain ⟨behind, word, eq⟩ := map_eq_ok_iff.mp read
    cases eq
    cases (value_of_null front word).symm.trans valued
    exact ⟨rfl, .null⟩
  · obtain ⟨⟨x, behind⟩, taken, eq⟩ := map_eq_ok_iff.mp read
    cases eq
    rw [← value_skipSpace] at valued
    obtain ⟨rfl, stands⟩ := agrees taken valued
    exact ⟨rfl, .given stands⟩

theorem Agrees.afterColon (agrees : Agrees depth reader Stands) {x : α}
    (read : afterColon reader cs = .ok (x, rest)) (valued : afterColon (value depth) cs = .ok (v, rest')) :
    rest = rest' ∧ Stands v x := by
  unfold Json.afterColon at read valued
  split at read
  · cases read
  · next behind colons =>
    rw [colons] at valued
    exact agrees read valued

/-- A value that is passed over by the one reader is read by the other up to the same place. -/
theorem eq_of_skipValue (colons : colon cs = .ok after) (skipped : skipValue after = .ok rest)
    (valued : afterColon (value depth) cs = .ok (v, rest')) : rest = rest' := by
  unfold Json.afterColon at valued
  rw [colons] at valued
  exact Except.ok.inj (skipped.symm.trans (skipValue_of_value valued))

/-- Readers of members that agree on each member agree on an object. -/
theorem agree_of_members {member : String → σ → Reader σ} {item : Reader β}
    {Tells : σ → List (String × β) → Prop}
    (each : ∀ {name state next kept x cs rest rest'}, Tells state kept →
      member name state cs = .ok (next, rest) → afterColon item cs = .ok (x, rest') →
      rest = rest' ∧ Tells next ((name, x) :: kept))
    {state final : σ} {kept ms : List (String × β)} (start : Tells state kept)
    (taken : members member n state first cs = .ok (final, rest))
    (taken' : members (addMember item) n kept first cs = .ok (ms, rest')) : rest = rest' ∧ Tells final ms := by
  induction n generalizing state kept first cs with
  | zero => cases taken
  | succ n ih =>
    obtain ⟨after, next, rfl, rfl⟩ | ⟨named, name, behind, _, last, next, string, added, taken⟩ :=
      members_succ_eq_ok_iff.mp taken
    all_goals
      obtain ⟨after', next', rfl, rfl⟩ | ⟨named', name', behind', _, last', next', string', added', taken'⟩ :=
        members_succ_eq_ok_iff.mp taken'
      all_goals cases next.symm.trans next'
    · exact ⟨rfl, start⟩
    · cases string.symm.trans string'
      obtain ⟨x, valued, rfl⟩ := addMember_eq_ok_iff.mp added'
      obtain ⟨rfl, told⟩ := each start added valued
      exact ih told taken taken'

/-! ## Items of arrays -/

/-- Where an item is required, the reader of values takes an item too, and it stands for the one that is
required. -/
theorem Agrees.requiredItem (agrees : Agrees depth reader Stands) {expected : String} {position : Nat}
    {kept vs : List Value} {x : α} (read : requiredItem expected position reader cs = .ok (x, rest))
    (taken : items (value depth) n kept (position == 0) cs = .ok (vs, rest')) :
    ∃ v n, Stands v x ∧ items (value depth) n (v :: kept) false rest = .ok (vs, rest') := by
  unfold Json.requiredItem itemOrEnd at read
  cases n with
  | zero => cases taken
  | succ n =>
    rw [items] at taken
    cases next : nextItem (position == 0) cs with
    | error e =>
      rw [next] at taken
      cases taken
    | ok found =>
      rw [next] at read taken
      cases found with
      | done after => cases read
      | item after =>
        dsimp only at read taken
        cases item : reader after with
        | error e =>
          rw [item] at read
          cases read
        | ok step =>
          rw [item] at read
          cases read
          split at taken
          · cases taken
          · next v behind valued =>
            obtain ⟨rfl, stands⟩ := agrees item valued
            exact ⟨v, n, stands, taken⟩

/-- Where an array has to end, the reader of values finds its end too. -/
theorem eq_of_endOfArray {kept vs : List Value} (read : endOfArray cs = .ok rest)
    (taken : items (value depth) n kept false cs = .ok (vs, rest')) : rest = rest' ∧ kept.reverse = vs := by
  have ended : skipSpace cs = ']' :: rest := by
    unfold endOfArray at read
    split at read
    · cases read
    · next front =>
      cases read
      exact front
    · split at read <;> cases read
    · cases read
  cases n with
  | zero => cases taken
  | succ n =>
    rw [items, nextItem, ended] at taken
    cases taken
    exact ⟨rfl, rfl⟩

end Readers

end TypedFilters.Json
