import Mathlib.Data.List.Perm.Basic

/-!
# The first that matches

A list is searched for the first element under which something is found. Where all elements that find
something find the same, it does not matter which of them comes first: what is found is what any of them
finds (`findSome?_eq_some_iff_of_agree`), in whatever order the list is searched (`findSome?_eq_of_perm`).
-/

namespace TypedFilters

variable {α β : Type} {find : α → Option β} {xs order : List α}

/-- The elements that find something all find the same. -/
def Agree (find : α → Option β) (xs : List α) : Prop :=
  ∀ x ∈ xs, ∀ y ∈ xs, ∀ a b, find x = some a → find y = some b → a = b

theorem findSome?_eq_some_iff_of_agree (agree : Agree find xs) {a : β} :
    xs.findSome? find = some a ↔ ∃ x ∈ xs, find x = some a := by
  constructor
  · exact List.exists_of_findSome?_eq_some
  · intro finds
    obtain ⟨x, member, finds⟩ := finds
    cases found : xs.findSome? find with
    | none =>
      have nothing := List.findSome?_eq_none_iff.mp found x member
      cases finds.symm.trans nothing
    | some b =>
      obtain ⟨y, member', finds'⟩ := List.exists_of_findSome?_eq_some found
      rw [agree y member' x member b a finds' finds]

theorem findSome?_eq_of_perm (agree : Agree find xs) (perm : order.Perm xs) :
    order.findSome? find = xs.findSome? find := by
  have agree' : Agree find order := by
    intro x member y member'
    exact agree x (perm.mem_iff.mp member) y (perm.mem_iff.mp member')
  apply Option.ext
  intro a
  rw [findSome?_eq_some_iff_of_agree agree, findSome?_eq_some_iff_of_agree agree']
  simp only [perm.mem_iff]

end TypedFilters
