import TypedFilters.Proofs.Decimal.Overflow

/-!
# Rounding to doubles

Rounding keeps what has at most 53 significant bits and comes between nothing of this kind and the number
that is rounded (`Binary64.roundUnits_le`, `Binary64.le_roundUnits`). It depends on the quotient and not on
its numerator and denominator (`Binary64.roundUnits_congr`), so the double nearest to a decimal number
depends on the number and not on how it is written (`Binary64.finite?_decimalUnits_congr`). Scaling by powers
of ten stays within the finite doubles (`Binary64.isFinite_of_scaled?`).
-/

namespace TypedFilters

variable {num den num' den' : Nat}

/-! ## Rounding a quotient -/

/-- What is at most a whole number is not rounded beyond it. -/
theorem roundQuotient_le_of_le {b : Nat} (pos : 0 < den) (le : num ≤ b * den) :
    roundQuotient num den ≤ b := by
  rcases Nat.lt_or_eq_of_le le with lt | rfl
  · exact roundQuotient_le lt
  · have whole : b * den % den = 0 := Nat.mul_mod_left b den
    rw [roundQuotient, whole, Nat.mul_div_cancel b pos, Nat.mul_zero, if_pos pos]

theorem roundQuotient_mul {m : Nat} (pos : 0 < m) (num den : Nat) :
    roundQuotient (m * num) (m * den) = roundQuotient num den := by
  have less : 2 * (m * (num % den)) < m * den ↔ 2 * (num % den) < den := by
    rw [Nat.mul_left_comm, Nat.mul_lt_mul_left pos]
  have greater : m * den < 2 * (m * (num % den)) ↔ den < 2 * (num % den) := by
    rw [Nat.mul_left_comm, Nat.mul_lt_mul_left pos]
  simp only [roundQuotient, Nat.mul_div_mul_left num den pos, Nat.mul_mod_mul_left, less, greater]

namespace Binary64

/-! ## Numbers with few bits -/

/-- A number of units has at most 53 significant bits. -/
def HasFewBits (units : Nat) : Prop :=
  ∃ m k, m < 2 ^ 53 ∧ units = m * 2 ^ k

/-- The units of a finite double: few bits, and below the overflow. -/
structure IsFinite (units : Nat) : Prop where
  bits : HasFewBits units
  lt : units < overflow

theorem hasFewBits_of_le {m : Nat} (le : m ≤ 2 ^ 53) (k : Nat) : HasFewBits (m * 2 ^ k) := by
  rcases Nat.lt_or_eq_of_le le with lt | rfl
  · exact ⟨m, k, lt, rfl⟩
  · exact ⟨1, 53 + k, by decide, by rw [Nat.one_mul, Nat.pow_add]⟩

theorem hasFewBits_zero : HasFewBits 0 :=
  ⟨0, 0, by decide, rfl⟩

theorem one_eq_two_pow : one = 2 ^ 1074 := by decide +kernel

theorem one_pos : 0 < one := by decide +kernel

/-- A whole number has as many significant bits as so many units. -/
theorem HasFewBits.mul_one {n : Nat} (bits : HasFewBits n) : HasFewBits (n * one) := by
  obtain ⟨m, k, lt, rfl⟩ := bits
  exact ⟨m, k + 1074, lt, by rw [one_eq_two_pow, Nat.mul_assoc, Nat.pow_add]⟩

theorem hasFewBits_roundUnits (pos : 0 < den) (num : Nat) : HasFewBits (roundUnits num den) := by
  obtain ⟨k, rounded, upper, _⟩ := exists_roundUnits_eq pos num
  rw [rounded]
  exact hasFewBits_of_le (roundQuotient_le upper) k

/-- On a grid that is too coarse for it, a number with few bits lies below all numbers of 53 bits. -/
theorem HasFewBits.lt_of_not_dvd {units k : Nat} (bits : HasFewBits units) (off : ¬ 2 ^ k ∣ units) :
    k ≠ 0 ∧ units < 2 ^ 52 * 2 ^ k := by
  obtain ⟨m, j, lt, rfl⟩ := bits
  have finer : j < k := by
    by_contra coarser
    exact off (Dvd.dvd.mul_left (Nat.pow_dvd_pow 2 (Nat.le_of_not_lt coarser)) m)
  refine ⟨by omega, ?_⟩
  calc m * 2 ^ j < 2 ^ 53 * 2 ^ j := Nat.mul_lt_mul_of_pos_right lt (Nat.two_pow_pos j)
    _ = 2 ^ 52 * 2 ^ (j + 1) := by rw [Nat.pow_succ 2 j]; omega
    _ ≤ 2 ^ 52 * 2 ^ k := Nat.mul_le_mul_left _ (Nat.pow_le_pow_right (by decide) finer)

/-! ## Rounding units -/

/-- Nothing is rounded up beyond a number with few bits. -/
theorem roundUnits_le {units : Nat} (bits : HasFewBits units) (pos : 0 < den) (le : num ≤ units * den) :
    roundUnits num den ≤ units := by
  obtain ⟨k, rounded, _, lower⟩ := exists_roundUnits_eq pos num
  have step : 0 < den * 2 ^ k := Nat.mul_pos pos (Nat.two_pow_pos k)
  by_cases on : 2 ^ k ∣ units
  · obtain ⟨m, rfl⟩ := on
    rw [Nat.mul_comm (2 ^ k) m, Nat.mul_assoc, Nat.mul_comm (2 ^ k)] at le
    rw [rounded, Nat.mul_comm (2 ^ k)]
    exact Nat.mul_le_mul_right _ (roundQuotient_le_of_le step le)
  · obtain ⟨coarse, lt⟩ := bits.lt_of_not_dvd on
    have below : units * den < 2 ^ 52 * (den * 2 ^ k) := by
      rw [Nat.mul_comm den, ← Nat.mul_assoc]
      exact Nat.mul_lt_mul_of_pos_right lt pos
    exact absurd (lower coarse) (by omega)

/-- Nothing is rounded down beyond a number with few bits. -/
theorem le_roundUnits {units : Nat} (bits : HasFewBits units) (pos : 0 < den) (le : units * den ≤ num) :
    units ≤ roundUnits num den := by
  obtain ⟨k, rounded, _, lower⟩ := exists_roundUnits_eq pos num
  have step : 0 < den * 2 ^ k := Nat.mul_pos pos (Nat.two_pow_pos k)
  by_cases on : 2 ^ k ∣ units
  · obtain ⟨m, rfl⟩ := on
    rw [Nat.mul_comm (2 ^ k) m, Nat.mul_assoc, Nat.mul_comm (2 ^ k)] at le
    rw [rounded, Nat.mul_comm (2 ^ k)]
    exact Nat.mul_le_mul_right _ (le_roundQuotient step le)
  · obtain ⟨coarse, lt⟩ := bits.lt_of_not_dvd on
    have least := le_roundQuotient step (lower coarse)
    rw [rounded]
    exact lt.le.trans (Nat.mul_le_mul_right _ least)

/-- A number with few bits is kept. -/
theorem roundUnits_eq_self {units : Nat} (bits : HasFewBits units) (pos : 0 < den) :
    roundUnits (units * den) den = units :=
  Nat.le_antisymm (roundUnits_le bits pos (Nat.le_refl _)) (le_roundUnits bits pos (Nat.le_refl _))

theorem roundUnits_mul {m : Nat} (pos : 0 < m) (num den : Nat) :
    roundUnits (m * num) (m * den) = roundUnits num den := by
  simp only [roundUnits, Nat.mul_div_mul_left num den pos, Nat.shiftLeft_eq, Nat.mul_assoc,
    roundQuotient_mul pos]

/-- Equal quotients are rounded to the same double. -/
theorem roundUnits_congr (pos : 0 < den) (pos' : 0 < den') (same : num * den' = num' * den) :
    roundUnits num den = roundUnits num' den' := by
  rw [← roundUnits_mul pos' num den, ← roundUnits_mul pos num' den', Nat.mul_comm den' num, same,
    Nat.mul_comm num', Nat.mul_comm den']

/-- A quotient of less than half a unit is rounded to zero. -/
theorem roundUnits_eq_zero (lt : 2 * num < den) : roundUnits num den = 0 := by
  have quotient : num / den = 0 := Nat.div_eq_of_lt (by omega)
  have remainder : num % den = num := Nat.mod_eq_of_lt (by omega)
  have fine : spacing 0 = 0 := by decide
  rw [roundUnits, quotient, fine, Nat.shiftLeft_zero, Nat.shiftLeft_zero, roundQuotient, quotient, remainder,
    if_pos lt]

/-! ## Rounding a decimal number -/

theorem finite?_eq_some_iff {units u : Nat} : finite? units = some u ↔ units < overflow ∧ units = u := by
  rw [finite?, Option.ite_none_right_eq_some, Option.some.injEq]

/-- There are more than three bits to each digit. -/
theorem mul_two_pow_lt_ten_pow {n k e : Nat} (small : n.log2 + 1 + k ≤ 3 * e) : n * 2 ^ k < 10 ^ e :=
  calc n * 2 ^ k < 2 ^ (n.log2 + 1) * 2 ^ k :=
        Nat.mul_lt_mul_of_pos_right Nat.lt_log2_self (Nat.two_pow_pos k)
    _ = 2 ^ (n.log2 + 1 + k) := (Nat.pow_add 2 _ _).symm
    _ ≤ 2 ^ (3 * e) := Nat.pow_le_pow_right (by decide) small
    _ = 8 ^ e := Nat.pow_mul 2 3 e
    _ ≤ 10 ^ e := Nat.pow_le_pow_left (by decide) e

/-- What the guard against long exponents lets through as zero is less than half a unit. -/
theorem two_mul_one_lt_of_log2 {n e : Nat} (small : n.log2 + 1100 < 3 * e) : 2 * (n * one) < 10 ^ e := by
  have doubled (k : Nat) : 2 * (n * 2 ^ k) = n * 2 ^ (k + 1) := by
    rw [Nat.pow_succ, Nat.mul_comm _ 2, Nat.mul_left_comm]
  rw [one_eq_two_pow, doubled]
  exact mul_two_pow_lt_ten_pow (by omega)

/-- The same number as a quotient of natural numbers is rounded alike. -/
theorem roundUnits_mul_one_congr (pos : 0 < den) (pos' : 0 < den') (same : (num : ℚ) / den = num' / den') :
    roundUnits (num * one) den = roundUnits (num' * one) den' := by
  have cross : num * den' = num' * den := by
    rw [div_eq_div_iff (Nat.cast_ne_zero.mpr pos.ne') (Nat.cast_ne_zero.mpr pos'.ne')] at same
    exact_mod_cast same
  refine roundUnits_congr pos pos' ?_
  rw [Nat.mul_right_comm, cross, Nat.mul_right_comm]

/-- The guards settle nothing that rounding the exact quotient would not. -/
theorem finite?_decimalUnits {coefficient : Nat} {exponent : ℤ} (pos : 0 < den)
    (value : (coefficient : ℚ) * 10 ^ exponent = num / den) :
    finite? (decimalUnits coefficient exponent) = finite? (roundUnits (num * one) den) := by
  have finite := decimalUnits_lt_overflow_iff coefficient exponent
  rw [value, ← roundUnits_lt_overflow_iff pos] at finite
  by_cases within : roundUnits (num * one) den < overflow
  · have small := finite.mpr within
    congr 1
    unfold decimalUnits at small ⊢
    split
    · next zero =>
      rw [zero, Nat.cast_zero, zero_mul, eq_comm, div_eq_zero_iff, Nat.cast_eq_zero, Nat.cast_eq_zero] at value
      obtain rfl : num = 0 := value.resolve_right pos.ne'
      exact (roundUnits_eq_zero (by omega)).symm
    · next some =>
      rw [if_neg some] at small
      cases exponent with
      | ofNat e =>
        dsimp only at small ⊢
        split
        · next large =>
          rw [if_pos large] at small
          exact absurd small (Nat.lt_irrefl _)
        · refine roundUnits_mul_one_congr Nat.one_pos pos ?_
          rw [← value, Int.ofNat_eq_natCast, zpow_natCast, Nat.pow_eq, Nat.cast_mul, Nat.cast_pow,
            Nat.cast_one, div_one, Nat.cast_ofNat]
      | negSucc e =>
        have powerPos : 0 < 10 ^ (e + 1) := Nat.pow_pos (by decide)
        have rounded : roundUnits (coefficient * one) (10 ^ (e + 1)) = roundUnits (num * one) den := by
          refine roundUnits_mul_one_congr powerPos pos ?_
          rw [← value, zpow_negSucc, ← div_eq_mul_inv, Nat.cast_pow, Nat.cast_ofNat]
        dsimp only
        split
        · next short => rw [← rounded, roundUnits_eq_zero (two_mul_one_lt_of_log2 short)]
        · exact rounded
  · rw [finite?, finite?, if_neg within, if_neg (mt finite.mp within)]

/-- A decimal number is a quotient of natural numbers. -/
theorem exists_eq_div (coefficient : Nat) (exponent : ℤ) :
    ∃ num den : Nat, 0 < den ∧ (coefficient : ℚ) * 10 ^ exponent = num / den := by
  cases exponent with
  | ofNat e =>
    refine ⟨coefficient * 10 ^ e, 1, Nat.one_pos, ?_⟩
    rw [Int.ofNat_eq_natCast, zpow_natCast, Nat.cast_mul, Nat.cast_pow, Nat.cast_one, div_one,
      Nat.cast_ofNat]
  | negSucc e =>
    refine ⟨coefficient, 10 ^ (e + 1), Nat.pow_pos (by decide), ?_⟩
    rw [zpow_negSucc, ← div_eq_mul_inv, Nat.cast_pow, Nat.cast_ofNat]

/-- The nearest double depends on the decimal number, and not on how it is written. -/
theorem finite?_decimalUnits_congr {c c' : Nat} {e e' : ℤ} (same : (c : ℚ) * 10 ^ e = c' * 10 ^ e') :
    finite? (decimalUnits c e) = finite? (decimalUnits c' e') := by
  obtain ⟨num, den, pos, value⟩ := exists_eq_div c e
  rw [finite?_decimalUnits pos value, finite?_decimalUnits pos (same.symm.trans value)]

/-! ## Arithmetic stays within the finite doubles -/

theorem isFinite_zero : IsFinite 0 :=
  ⟨hasFewBits_zero, by decide +kernel⟩

theorem isFinite_of_le {units bound : Nat} (bits : HasFewBits units) (finite : IsFinite bound)
    (le : units ≤ bound) : IsFinite units :=
  ⟨bits, le.trans_lt finite.lt⟩

/-- Integers of 64 bits are in the range of finite doubles. -/
theorem isFinite_natUnits {n : Nat} (small : n ≤ 2 ^ 64) : IsFinite (natUnits n) := by
  have bound : IsFinite (2 ^ 64 * one) := ⟨HasFewBits.mul_one ⟨1, 64, by decide, by decide⟩, by decide +kernel⟩
  refine isFinite_of_le (hasFewBits_roundUnits Nat.one_pos _) bound ?_
  refine roundUnits_le bound.bits Nat.one_pos ?_
  rw [Nat.mul_one]
  exact Nat.mul_le_mul_right one small

theorem one_le_powerUnits (e : Nat) : one ≤ powerUnits e := by
  have bits : HasFewBits one := Nat.one_mul one ▸ HasFewBits.mul_one ⟨1, 0, by decide, rfl⟩
  refine le_roundUnits bits Nat.one_pos ?_
  rw [Nat.mul_one]
  exact Nat.le_mul_of_pos_left one (Nat.pow_pos (by decide))

/-- Division by one or more leads to nothing greater. -/
theorem isFinite_divUnits {a b : Nat} (finite : IsFinite a) (le : one ≤ b) : IsFinite (divUnits a b) := by
  have pos : 0 < b := one_pos.trans_le le
  exact isFinite_of_le (hasFewBits_roundUnits pos _) finite
    (roundUnits_le finite.bits pos (Nat.mul_le_mul_left a le))

theorem isFinite_scaleDown {units e : Nat} (finite : IsFinite units) : IsFinite (scaleDown units e) := by
  induction units, e using scaleDown.induct with
  | case1 e =>
    rw [scaleDown, if_pos rfl]
    exact isFinite_zero
  | case2 units e some last =>
    rw [scaleDown, if_neg some, if_pos last]
    exact isFinite_divUnits finite (one_le_powerUnits e)
  | case3 units e some more ih =>
    rw [scaleDown, if_neg some, if_neg more]
    exact ih (isFinite_divUnits finite (one_le_powerUnits 308))

/-- What scaling answers is finite. -/
theorem isFinite_of_scaled? {significand units : Nat} {exponent : ℤ} (small : significand ≤ 2 ^ 64)
    (scaled : scaled? significand exponent = some units) : IsFinite units := by
  cases exponent with
  | ofNat e =>
    simp only [scaled?] at scaled
    split at scaled
    · obtain ⟨lt, rfl⟩ := finite?_eq_some_iff.mp scaled
      exact ⟨hasFewBits_roundUnits one_pos _, lt⟩
    · split at scaled
      · cases scaled
        exact isFinite_zero
      · cases scaled
  | negSucc e =>
    cases scaled
    exact isFinite_scaleDown (isFinite_natUnits small)

end Binary64

end TypedFilters
