import Mathlib.Algebra.Order.Field.Basic
import Mathlib.Algebra.Order.Field.Rat
import TypedFilters.Decimal.Binary64
import TypedFilters.Proofs.Decimal.Literal

/-!
# When a decimal number rounds to a finite double

The greatest finite double is `2 ^ 1024 - 2 ^ 971`, and `2 ^ 1024` would be the next. The middle between
them is a tie, and is rounded up, since the significand of the greatest finite double is odd. So exactly
the numbers whose size lies below `2 ^ 1024 - 2 ^ 970` have a nearest double
(`Binary64.isSome_ofDecimal?_iff`). The guards that keep powers of ten small settle nothing else
(`Binary64.decimalUnits_lt_overflow_iff`).
-/

namespace TypedFilters

variable {num den : Nat}

/-! ## Rounding a quotient -/

theorem roundQuotient_bounds (num den : Nat) :
    num / den ≤ roundQuotient num den ∧ roundQuotient num den ≤ num / den + 1 := by
  unfold roundQuotient
  dsimp only
  split_ifs <;> omega

theorem roundQuotient_le {b : Nat} (lt : num < b * den) : roundQuotient num den ≤ b :=
  (roundQuotient_bounds num den).2.trans (Nat.div_lt_of_lt_mul (Nat.mul_comm b den ▸ lt))

theorem le_roundQuotient {b : Nat} (pos : 0 < den) (le : b * den ≤ num) : b ≤ roundQuotient num den :=
  ((Nat.le_div_iff_mul_le pos).mpr le).trans (roundQuotient_bounds num den).1

/-- What rounds to an odd number or less lies below the middle between it and the next, since the
middle itself is rounded up to the even number. -/
theorem roundQuotient_le_iff {q : Nat} (pos : 0 < den) (odd : q % 2 = 1) :
    roundQuotient num den ≤ q ↔ 2 * num < (2 * q + 1) * den := by
  rcases Nat.lt_trichotomy (num / den) q with below | rfl | above
  · have lt : num < q * den := (Nat.div_lt_iff_lt_mul pos).mp below
    refine iff_of_true (roundQuotient_le lt) ?_
    rw [Nat.add_mul, Nat.mul_assoc]
    omega
  · have split := Nat.div_add_mod num den
    have remainder : 2 * num < (2 * (num / den) + 1) * den ↔ 2 * (num % den) < den := by
      rw [Nat.add_mul, Nat.mul_assoc, Nat.mul_comm (num / den)]
      omega
    rw [remainder]
    unfold roundQuotient
    dsimp only
    split_ifs <;> omega
  · have le : (q + 1) * den ≤ num := (Nat.le_div_iff_mul_le pos).mp above
    refine iff_of_false (Nat.not_le.mpr (le_roundQuotient pos le)) ?_
    rw [Nat.add_mul] at le ⊢
    rw [Nat.mul_assoc]
    omega

namespace Binary64

/-! ## Rounding units -/

/-- The doubles around a number of units are so far apart that 53 bits are left of it. -/
theorem lt_two_pow_spacing (units : Nat) : units < 2 ^ (53 + spacing units) := by
  unfold spacing
  split
  · next small => exact small
  · exact Nat.lt_log2_self.trans_le (Nat.pow_le_pow_right (by decide) (by omega))

theorem two_pow_spacing_le {units : Nat} (coarse : spacing units ≠ 0) :
    2 ^ (52 + spacing units) ≤ units := by
  unfold spacing at coarse ⊢
  split at coarse
  · exact absurd rfl coarse
  · next large =>
    have some : units ≠ 0 := by
      rintro rfl
      exact large (by decide)
    rw [if_neg large, Nat.add_sub_cancel' (by omega)]
    exact Nat.log2_self_le some

/-- Rounding takes 53 bits of a quotient that has more, and all of it else. -/
theorem exists_roundUnits_eq (pos : 0 < den) (num : Nat) :
    ∃ k, roundUnits num den = roundQuotient num (den * 2 ^ k) * 2 ^ k ∧
      num < 2 ^ 53 * (den * 2 ^ k) ∧ (k ≠ 0 → 2 ^ 52 * (den * 2 ^ k) ≤ num) := by
  have scale (b k : Nat) : 2 ^ (b + k) * den = 2 ^ b * (den * 2 ^ k) := by
    rw [Nat.pow_add, Nat.mul_assoc, Nat.mul_comm (2 ^ k)]
  refine ⟨spacing (num / den), ?_, ?_, fun coarse => ?_⟩
  · rw [roundUnits, Nat.shiftLeft_eq, Nat.shiftLeft_eq]
  · rw [← scale, ← Nat.div_lt_iff_lt_mul pos]
    exact lt_two_pow_spacing _
  · rw [← scale, ← Nat.le_div_iff_mul_le pos]
    exact two_pow_spacing_le coarse

/-- The greatest number of 54 bits is odd, and half of it lies in the middle between the greatest number
of 53 bits and the next, and is rounded up. So a quotient is rounded to more than `54 + n` bits exactly
from there on. -/
theorem roundUnits_lt_iff (pos : 0 < den) (n : Nat) :
    roundUnits num den < 2 ^ (54 + n) ↔ num < (2 ^ 54 - 1) * (den * 2 ^ n) := by
  obtain ⟨k, rounded, upper, lower⟩ := exists_roundUnits_eq pos num
  have pos_n : 0 < den * 2 ^ n := Nat.mul_pos pos (Nat.two_pow_pos n)
  have pos_k : 0 < den * 2 ^ k := Nat.mul_pos pos (Nat.two_pow_pos k)
  rw [rounded, Nat.pow_add]
  -- With a step of `2 ^ (n + 1)` the numbers of 53 bits just fit.
  rcases Nat.lt_trichotomy k (n + 1) with fine | rfl | coarse
  · have le : 2 ^ k ≤ 2 ^ n := Nat.pow_le_pow_right (by decide) (Nat.lt_succ_iff.mp fine)
    have units := Nat.mul_le_mul (roundQuotient_le upper) le
    have quotient := Nat.mul_le_mul_left den le
    have some : 0 < 2 ^ n := Nat.two_pow_pos n
    exact iff_of_true (by omega) (by omega)
  · have whole : 2 ^ 54 * 2 ^ n = 2 ^ 53 * 2 ^ (n + 1) := by rw [Nat.pow_succ]; omega
    have double : den * 2 ^ (n + 1) = 2 * (den * 2 ^ n) := by
      rw [Nat.pow_succ, ← Nat.mul_assoc, Nat.mul_comm]
    have middle := @roundQuotient_le_iff num _ (2 ^ 53 - 1) pos_k (by decide)
    rw [whole, Nat.mul_lt_mul_right (Nat.two_pow_pos _), ← Nat.le_sub_one_iff_lt (by decide), middle,
      double]
    omega
  · have fourfold : 2 ^ (n + 2) = 4 * 2 ^ n := by rw [Nat.pow_add, Nat.mul_comm]
    have le : 4 * 2 ^ n ≤ 2 ^ k := fourfold ▸ Nat.pow_le_pow_right (by decide) coarse
    have least := lower (by omega)
    have units := Nat.mul_le_mul (le_roundQuotient pos_k least) le
    have quotient := Nat.mul_le_mul_left den le
    rw [Nat.mul_left_comm] at quotient
    exact iff_of_false (by omega) (by omega)

/-! ## Rounding a decimal number -/

/-- The greatest finite double is `2 ^ 1024 - 2 ^ 971`, and `2 ^ 1024` would be the next. A quotient is
rounded to a finite double exactly if it lies below the middle between them. -/
theorem roundUnits_lt_overflow_iff (pos : 0 < den) :
    roundUnits (num * one) den < overflow ↔ (num : ℚ) / den < 2 ^ 1024 - 2 ^ 970 := by
  have bits : overflow = 2 ^ (54 + 2044) := by decide +kernel
  have split : 2 ^ 2044 = 2 ^ 970 * one := by decide +kernel
  have natural : num * one < (2 ^ 54 - 1) * (den * 2 ^ 2044) ↔ num < (2 ^ 54 - 1) * 2 ^ 970 * den := by
    rw [split, ← Nat.mul_assoc den, ← Nat.mul_assoc, Nat.mul_lt_mul_right (by decide +kernel),
      Nat.mul_comm den, Nat.mul_assoc]
  have middle : (2 ^ 1024 - 2 ^ 970 : ℚ) * den = ((2 ^ 54 - 1) * 2 ^ 970 * den : Nat) := by
    rw [Nat.cast_mul, Nat.cast_mul, Nat.cast_pred (by decide), Nat.cast_pow, Nat.cast_pow,
      Nat.cast_ofNat, sub_mul (2 ^ 54 : ℚ), ← pow_add, one_mul]
  rw [bits, roundUnits_lt_iff pos, natural, div_lt_iff₀ (Nat.cast_pos.mpr pos), middle, Nat.cast_lt]

/-- Whatever is less than a moderate power of two is far from the overflow. -/
theorem lt_overflow_limit_of_lt_two_pow {x : ℚ} {e : Nat} (moderate : e ≤ 970) (lt : x < 2 ^ e) :
    x < 2 ^ 1024 - 2 ^ 970 := by
  have double : (2 : ℚ) * 2 ^ 970 ≤ 2 ^ 1024 := by
    rw [← pow_succ']
    exact pow_le_pow_right₀ one_le_two (by decide)
  calc x < 2 ^ e := lt
    _ ≤ 2 ^ 970 := pow_le_pow_right₀ one_le_two moderate
    _ = 2 * 2 ^ 970 - 2 ^ 970 := by rw [two_mul, add_sub_cancel_right]
    _ ≤ 2 ^ 1024 - 2 ^ 970 := sub_le_sub_right double _

theorem lt_overflow_limit_of_lt_one {x : ℚ} (lt : x < 1) : x < 2 ^ 1024 - 2 ^ 970 :=
  lt_overflow_limit_of_lt_two_pow (Nat.zero_le _) lt

/-- Ten to the power of 310 is out of range. -/
theorem overflow_limit_le_ten_pow {e : Nat} (large : 310 ≤ e) :
    (2 ^ 1024 - 2 ^ 970 : ℚ) ≤ (10 ^ e : Nat) := by
  have least : 2 ^ 1024 ≤ 10 ^ 310 := by decide +kernel
  have powers (n : Nat) (le : n ≤ e) : 10 ^ n ≤ 10 ^ e := Nat.pow_le_pow_right (by decide) le
  have natural : 2 ^ 1024 ≤ 10 ^ e := least.trans (powers 310 large)
  calc (2 ^ 1024 - 2 ^ 970 : ℚ) ≤ 2 ^ 1024 := sub_le_self _ (pow_nonneg zero_le_two _)
    _ = ((2 ^ 1024 : Nat) : ℚ) := by rw [Nat.cast_pow, Nat.cast_ofNat]
    _ ≤ (10 ^ e : Nat) := Nat.cast_le.mpr natural

/-- There are more than three bits to each digit. -/
theorem lt_ten_pow_of_log2 {n e : Nat} (small : n.log2 + 1100 < 3 * e) : n < 10 ^ e :=
  calc n < 2 ^ (n.log2 + 1) := Nat.lt_log2_self
    _ ≤ 2 ^ (3 * e) := Nat.pow_le_pow_right (by decide) (by omega)
    _ = 8 ^ e := Nat.pow_mul 2 3 e
    _ ≤ 10 ^ e := Nat.pow_le_pow_left (by decide) e

/-- The guards only settle what the rounding would: whether the number lies below the middle between the
greatest finite double and the next. -/
theorem decimalUnits_lt_overflow_iff (coefficient : Nat) (exponent : ℤ) :
    decimalUnits coefficient exponent < overflow ↔
      (coefficient : ℚ) * 10 ^ exponent < 2 ^ 1024 - 2 ^ 970 := by
  have pos : 0 < overflow := by decide +kernel
  unfold decimalUnits
  split
  · next zero =>
    rw [zero, Nat.cast_zero, zero_mul]
    exact iff_of_true pos (lt_overflow_limit_of_lt_one one_pos)
  · next some =>
    cases exponent with
    | ofNat e =>
      have value : (coefficient : ℚ) * 10 ^ Int.ofNat e = (coefficient * 10 ^ e : Nat) := by
        rw [Int.ofNat_eq_natCast, zpow_natCast, Nat.cast_mul, Nat.cast_pow, Nat.cast_ofNat]
      dsimp only
      rw [value]
      split
      · next large =>
        have atLeast : 10 ^ e ≤ coefficient * 10 ^ e :=
          Nat.le_mul_of_pos_left _ (Nat.pos_of_ne_zero some)
        refine iff_of_false (lt_irrefl _) (not_lt.mpr ?_)
        exact (overflow_limit_le_ten_pow large).trans (Nat.cast_le.mpr atLeast)
      · have rounded := @roundUnits_lt_overflow_iff (coefficient * 10 ^ e) 1 Nat.one_pos
        rwa [Nat.cast_one, div_one] at rounded
    | negSucc e =>
      have value : (coefficient : ℚ) * 10 ^ Int.negSucc e = coefficient / (10 ^ (e + 1) : Nat) := by
        rw [zpow_negSucc, ← div_eq_mul_inv, Nat.cast_pow, Nat.cast_ofNat]
      have powerPos : 0 < 10 ^ (e + 1) := Nat.pow_pos (by decide)
      dsimp only
      rw [value]
      split
      · next small =>
        refine iff_of_true pos (lt_overflow_limit_of_lt_one ?_)
        rw [div_lt_one (Nat.cast_pos.mpr powerPos), Nat.cast_lt]
        exact lt_ten_pow_of_log2 small
      · exact roundUnits_lt_overflow_iff powerPos

end Binary64

theorem Decimal.abs_toRat (d : Decimal) : |d.toRat| = d.coefficient * 10 ^ d.exponent := by
  have size : (0 : ℚ) ≤ d.coefficient * 10 ^ d.exponent :=
    mul_nonneg (Nat.cast_nonneg _) (zpow_nonneg (by norm_num) _)
  have factor : |(signFactor d.negative : ℚ)| = 1 := by
    cases d.negative
    · rw [signFactor, if_neg Bool.false_ne_true, Int.cast_one, abs_one]
    · rw [signFactor, if_pos rfl, Int.cast_neg, Int.cast_one, abs_neg, abs_one]
  rw [toRat, mul_assoc, abs_mul, factor, one_mul, abs_of_nonneg size]

/-- A decimal number has a nearest double exactly if its size is below the middle between the greatest
finite double and the next. -/
theorem Binary64.isSome_ofDecimal?_iff (d : Decimal) :
    (ofDecimal? d).isSome ↔ |d.toRat| < 2 ^ 1024 - 2 ^ 970 := by
  rw [ofDecimal?, Option.isSome_map, finite?, d.abs_toRat, ← decimalUnits_lt_overflow_iff,
    Option.isSome_ite]

end TypedFilters
