import Mathlib.Algebra.Ring.Int.Defs
import TypedFilters.Json.Number
import TypedFilters.Json.Value
import TypedFilters.Proofs.Text.Digits

/-!
# Integers are read back

The decimal text of an integer that fits 64 bits, signed or unsigned, is read back as that integer, in
front of anything that does not go on with the number (`number_integer`).
-/

namespace TypedFilters.Json

open Text

/-- A number that ends before the text is not continued by it. -/
def EndsNumber (rest : List Char) : Prop :=
  ∀ c ∈ rest.head?, ¬ isDigit c ∧ c ≠ '.' ∧ c ≠ 'e' ∧ c ≠ 'E'

/-- The digits of a positive number do not begin with a zero. -/
theorem toDigits_eq_cons {n : Nat} (pos : 0 < n) :
    ∃ c ds, Nat.toDigits 10 n = c :: ds ∧ c ≠ '0' := by
  induction n using Nat.strongRecOn with
  | ind n ih =>
    by_cases small : n < 10
    · refine ⟨n.digitChar, [], Nat.toDigits_of_lt_base small, ?_⟩
      rw [Ne, Nat.digitChar_eq_zero]
      omega
    · obtain ⟨c, ds, digits, other⟩ := ih (n / 10) (by omega) (by omega)
      refine ⟨c, ds ++ [(n % 10).digitChar], ?_, other⟩
      rw [Nat.toDigits_of_base_le (by decide) (by omega), digits, List.cons_append]

theorem le_ofDigitChars (ds : List Char) (n : Nat) : n ≤ Nat.ofDigitChars 10 ds n := by
  induction ds generalizing n with
  | nil => exact Nat.le_of_eq Nat.ofDigitChars_nil.symm
  | cons c ds ih =>
    rw [Nat.ofDigitChars_cons]
    have := ih (10 * n + (c.toNat - '0'.toNat))
    omega

section Reading

variable {rest : List Char}

theorem EndsNumber.not_startsWithDigit (ends : EndsNumber rest) : ¬ startsWithDigit rest := by
  cases rest with
  | nil => exact Bool.false_ne_true
  | cons c rest => exact (ends c rfl).1

/-- Digits are taken up to the end of the number, as long as its value is within the limit. -/
theorem takeDigits_append {limit n taken : Nat} {ds : List Char} (digits : ∀ c ∈ ds, isDigit c)
    (ends : EndsNumber rest) (fits : Nat.ofDigitChars 10 ds n ≤ limit) :
    takeDigits limit n taken (ds ++ rest) = (Nat.ofDigitChars 10 ds n, taken + ds.length, rest) := by
  induction ds generalizing n taken with
  | nil =>
    cases rest with
    | nil => rw [List.append_nil, takeDigits, Nat.ofDigitChars_nil]; rfl
    | cons c rest =>
      have none : digit? c = none := Option.not_isSome_iff_eq_none.mp (ends c rfl).1
      rw [List.nil_append, takeDigits, none, Nat.ofDigitChars_nil]
      rfl
  | cons c ds ih =>
    have value := digit?_of_isDigit (digits c List.mem_cons_self)
    have next : 10 * n + (c.toNat - '0'.toNat) = n * 10 + (c.toNat - 48) := by
      rw [Nat.mul_comm]
      rfl
    rw [Nat.ofDigitChars_cons, next] at fits ⊢
    have within : ¬ limit < n * 10 + (c.toNat - 48) := by
      have := le_ofDigitChars ds (n * 10 + (c.toNat - 48))
      omega
    rw [List.cons_append, takeDigits, value]
    dsimp only
    rw [if_neg within, ih (fun d tail => digits d (List.mem_cons_of_mem c tail)) fits, List.length_cons,
      Nat.add_assoc, Nat.add_comm 1]

theorem passDigits_of_ends (ends : EndsNumber rest) : passDigits rest = (0, rest) := by
  cases rest with
  | nil => rfl
  | cons c rest =>
    rw [passDigits, List.span_eq_takeWhile_dropWhile, List.takeWhile_cons_of_neg (ends c rfl).1,
      List.dropWhile_cons_of_neg (ends c rfl).1]
    rfl

theorem afterWhole_of_ends {negative : Bool} {significand : Nat} (ends : EndsNumber rest) :
    afterWhole negative significand 0 rest = .ok (integer negative significand, rest) := by
  cases rest with
  | nil => rfl
  | cons c rest =>
    obtain ⟨_, point, small, capital⟩ := ends c rfl
    rw [afterWhole, if_neg (not_or.mpr ⟨small, capital⟩), if_pos rfl]
    exact point

/-- The digits of a number that fits 64 bits are read back. -/
theorem unsigned_toDigits {negative : Bool} {n : Nat} (fits : n < 2 ^ 64) (ends : EndsNumber rest) :
    unsigned negative (Nat.toDigits 10 n ++ rest) = .ok (integer negative n, rest) := by
  by_cases zero : n = 0
  · subst zero
    rw [Nat.toDigits_zero, List.singleton_append, unsigned, if_neg ends.not_startsWithDigit,
      afterWhole_of_ends ends]
  · obtain ⟨c, ds, digits, other⟩ := toDigits_eq_cons (Nat.pos_of_ne_zero zero)
    have all : ∀ d ∈ Nat.toDigits 10 n, isDigit d := fun d => isDigit_of_mem_toDigits
    have within : Nat.ofDigitChars 10 (Nat.toDigits 10 n) 0 ≤ maxSignificand := by
      rw [Nat.ofDigitChars_ten_toDigits]
      exact Nat.le_sub_one_of_lt fits
    have taken := @takeDigits_append rest maxSignificand 0 0 _ all ends within
    rw [Nat.ofDigitChars_ten_toDigits] at taken
    have first : isDigit c := all c (digits ▸ List.mem_cons_self)
    rw [digits, List.cons_append] at taken ⊢
    rw [unsigned, if_pos first, taken]
    · dsimp only
      rw [passDigits_of_ends ends]
      exact afterWhole_of_ends ends
    · exact other

theorem toString_eq_cons (i : Int) :
    ∃ c cs, (toString i).toList = c :: cs ∧ (c = '-' ∨ isDigit c) := by
  rw [Int.toString_eq_repr, Int.repr_eq_if]
  split
  · obtain ⟨c, ds, digits⟩ := List.exists_cons_of_ne_nil (@Nat.toDigits_ne_nil i.toNat 10)
    have first : c ∈ Nat.toDigits 10 i.toNat := digits ▸ List.mem_cons_self
    exact ⟨c, ds, by rw [Nat.toList_repr, digits], .inr (isDigit_of_mem_toDigits first)⟩
  · refine ⟨'-', Nat.toDigits 10 (-i).toNat, ?_, .inl rfl⟩
    have sign : "-".toList = ['-'] := by decide
    rw [String.toList_append, Nat.toList_repr, sign, List.singleton_append]

theorem ne_of_starts {c d : Char} (starts : c = '-' ∨ isDigit c) (minus : d ≠ '-')
    (digit : ¬ isDigit d) : c ≠ d := by
  intro eq
  rw [eq] at starts
  exact starts.elim minus digit

theorem number_toDigits {n : Nat} (fits : n < 2 ^ 64) (ends : EndsNumber rest) :
    number (Nat.toDigits 10 n ++ rest) = .ok (.integer n, rest) := by
  obtain ⟨c, ds, digits⟩ := List.exists_cons_of_ne_nil (@Nat.toDigits_ne_nil n 10)
  have first : isDigit c := isDigit_of_mem_toDigits (digits ▸ List.mem_cons_self : c ∈ Nat.toDigits 10 n)
  have read := @unsigned_toDigits rest false n fits ends
  rw [digits, List.cons_append] at read ⊢
  rw [number, read]
  · rfl
  · intro _ minus
    rcases minus with ⟨rfl, _⟩
    cases first

/-- An integer that fits 64 bits is read back. -/
theorem number_integer {i : Int} (lower : -2 ^ 63 ≤ i) (upper : i < 2 ^ 64)
    (ends : EndsNumber rest) :
    number ((toString i).toList ++ rest) = .ok (.integer i, rest) := by
  rw [Int.toString_eq_repr, Int.repr_eq_if]
  split
  · next nonneg =>
    obtain ⟨n, rfl⟩ := Int.eq_ofNat_of_zero_le nonneg
    rw [Int.toNat_natCast, Nat.toList_repr]
    exact number_toDigits (by omega) ends
  · next negative =>
    obtain ⟨n, magnitude⟩ : ∃ n : Nat, -i = n := Int.eq_ofNat_of_zero_le (by omega)
    have nonzero : ¬ (n = 0 ∨ Nat.pow 2 63 < n) := by
      have : Nat.pow 2 63 = 2 ^ 63 := rfl
      omega
    have sign : "-".toList = ['-'] := by decide
    rw [magnitude, Int.toNat_natCast, String.toList_append, Nat.toList_repr, sign, List.append_assoc,
      List.singleton_append, number, unsigned_toDigits (by omega) ends, integer, if_neg (by decide),
      if_neg nonzero, ← magnitude, Int.neg_neg]

end Reading

end TypedFilters.Json
