import Mathlib.Tactic.Ring
import TypedFilters.Proofs.Text.Digits

/-!
# Numerals of fixed width

A numeral is a number of digits with the number that they denote (`Numeral`). Every digit counts for as
many units as there are digits behind it (`digitsValue_cons`), so a number has at most one numeral of
each width (`Numeral.unique`).
-/

namespace TypedFilters.Text

/-- The characters are digits, so many of them, and denote a number. -/
structure Numeral (width n : Nat) (cs : List Char) : Prop where
  length_eq : cs.length = width
  digits : ∀ c ∈ cs, isDigit c
  value : digitsValue cs = n

instance (width n : Nat) (cs : List Char) : Decidable (Numeral width n cs) :=
  decidable_of_iff (cs.length = width ∧ cs.all isDigit ∧ digitsValue cs = n)
    ⟨fun ⟨length, digits, value⟩ => ⟨length, List.all_eq_true.mp digits, value⟩,
      fun ⟨length, digits, value⟩ => ⟨length, List.all_eq_true.mpr digits, value⟩⟩

theorem Numeral.ne_nil {width n : Nat} {cs : List Char} (numeral : Numeral width n cs)
    (pos : 0 < width) : cs ≠ [] := by
  rw [← List.length_pos_iff, numeral.length_eq]
  exact pos

theorem digitsValue_append (cs ds : List Char) :
    digitsValue (cs ++ ds) = digitsValue cs * 10 ^ ds.length + digitsValue ds := by
  suffices later : ∀ n, ds.foldl (fun n c => 10 * n + (digit? c).getD 0) n =
      n * 10 ^ ds.length + digitsValue ds by
    rw [digitsValue, List.foldl_append, ← digitsValue, later]
  induction ds with
  | nil => exact fun n => (Nat.mul_one n).symm
  | cons d ds ih =>
    intro n
    have alone := ih ((digit? d).getD 0)
    rw [digitsValue, List.foldl_cons, List.foldl_cons, ih, List.length_cons, Nat.mul_zero, Nat.zero_add,
      alone]
    ring

/-- The first digit counts for as many units as there are digits behind it. -/
theorem digitsValue_cons {c : Char} (digit : isDigit c) (cs : List Char) :
    digitsValue (c :: cs) = (c.toNat - 48) * 10 ^ cs.length + digitsValue cs := by
  have first : digitsValue [c] = c.toNat - 48 := by
    rw [digitsValue, List.foldl_cons, List.foldl_nil, digit?_of_isDigit digit, Option.getD_some,
      Nat.mul_zero, Nat.zero_add]
  rw [← first, ← digitsValue_append, List.singleton_append]

theorem digitsValue_lt {cs : List Char} (digits : ∀ c ∈ cs, isDigit c) :
    digitsValue cs < 10 ^ cs.length := by
  induction cs with
  | nil => decide
  | cons c cs ih =>
    rw [List.forall_mem_cons] at digits
    rcases digits with ⟨digit, digits⟩
    have rest := ih digits
    have bounds := (isDigit_iff c).mp digit
    have first : (c.toNat - 48) * 10 ^ cs.length ≤ 9 * 10 ^ cs.length :=
      Nat.mul_le_mul_right _ (by omega)
    rw [digitsValue_cons digit, List.length_cons, Nat.pow_succ]
    omega

/-- Digits that are cut off at the end are those behind the point of the quotient. -/
theorem digitsValue_take {cs : List Char} (digits : ∀ c ∈ cs, isDigit c) (width : Nat) :
    digitsValue (cs.take width) = digitsValue cs / 10 ^ (cs.length - width) := by
  have cut : ∀ c ∈ cs.drop width, isDigit c := fun c inside => digits c (List.mem_of_mem_drop inside)
  have small := digitsValue_lt cut
  have whole := digitsValue_append (cs.take width) (cs.drop width)
  rw [List.take_append_drop] at whole
  rw [whole, ← List.length_drop, Nat.mul_comm, Nat.mul_add_div (Nat.pow_pos (by decide)),
    Nat.div_eq_of_lt small, Nat.add_zero]

/-- A number has one numeral of each width. -/
theorem Numeral.unique {width n : Nat} {cs ds : List Char} (left : Numeral width n cs)
    (right : Numeral width n ds) : cs = ds := by
  rcases left with ⟨rfl, leftDigits, rfl⟩
  rcases right with ⟨length, rightDigits, value⟩
  induction cs generalizing ds with
  | nil => exact (List.length_eq_zero_iff.mp length).symm
  | cons c cs ih =>
    cases ds with
    | nil => cases length
    | cons d ds =>
      rw [List.forall_mem_cons] at leftDigits rightDigits
      rcases leftDigits with ⟨leftDigit, leftDigits⟩
      rcases rightDigits with ⟨rightDigit, rightDigits⟩
      rw [List.length_cons, List.length_cons, Nat.add_right_cancel_iff] at length
      have leftRest := digitsValue_lt leftDigits
      have rightRest := digitsValue_lt rightDigits
      have leftBounds := (isDigit_iff c).mp leftDigit
      have rightBounds := (isDigit_iff d).mp rightDigit
      rw [digitsValue_cons leftDigit, digitsValue_cons rightDigit, length] at value
      rw [length] at rightRest
      -- What is behind the first digits is less than one unit of them.
      have first : d.toNat - 48 = c.toNat - 48 := by
        have quotients := congrArg (· / 10 ^ cs.length) value
        simpa only [Nat.mul_comm _ (10 ^ cs.length), Nat.mul_add_div (Nat.pow_pos (by decide : 0 < 10)),
          Nat.div_eq_of_lt leftRest, Nat.div_eq_of_lt rightRest, Nat.add_zero] using quotients
      have same : c = d := Char.toNat_inj.mp (by omega)
      rw [first] at value
      rw [same, ih leftDigits length rightDigits (Nat.add_left_cancel value)]

end TypedFilters.Text
