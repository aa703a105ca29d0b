import TypedFilters.Decimal.Shortest
import TypedFilters.Proofs.Decimal.Rounding
import TypedFilters.ValueFormat

/-!
# The text of a double is read back

The shortest text of a finite double is a decimal literal, in whichever notation it is written
(`Binary64.exists_denotes_magnitudeText`), and the double nearest to it is the double itself, down to the sign
of zero (`Binary64.ofDecimal?_read?_text`). Only doubles from `10 ^ 16` on have a plus in their text
(`Binary64.plus_mem_text_iff`).
-/

namespace TypedFilters

open Text

namespace Binary64

/-! ## The shortest decimal number -/

section Shortest

variable {units : Nat}

/-- Both neighbours are tested, and rounding answers one of them. -/
theorem decimalUnits_of_nearestOnGrid? {c : Nat} {e : ℤ} (found : nearestOnGrid? units e = some c) :
    decimalUnits c e = units := by
  simp only [nearestOnGrid?] at found
  split at found
  · next below above =>
    rw [beq_iff_eq] at below above
    rw [← Option.some.inj found]
    have bounds := roundQuotient_bounds (overPower units e).1 (overPower units e).2
    rcases Nat.eq_or_lt_of_le bounds.1 with down | up
    · rw [← down, below]
    · rw [Nat.le_antisymm bounds.2 up, above]
  · next below _ =>
    rw [← Option.some.inj found]
    exact beq_iff_eq.mp below
  · next _ above =>
    rw [← Option.some.inj found]
    exact beq_iff_eq.mp above
  · cases found

theorem decimalUnits_expansion (finite : IsFinite units) :
    decimalUnits (expansion units).1 (expansion units).2 = units := by
  have value : ((expansion units).1 : ℚ) * 10 ^ (expansion units).2 = units / one := by
    have ten : (10 : ℚ) = 5 * 2 := by norm_num
    have powers (m k : Nat) : ((m * Nat.pow 5 k : Nat) : ℚ) * 10 ^ (-(k : ℤ)) = m / (Nat.pow 2 k : Nat) := by
      rw [zpow_neg, zpow_natCast, ten, mul_pow, Nat.pow_eq, Nat.pow_eq, Nat.cast_mul, Nat.cast_pow,
        Nat.cast_pow, Nat.cast_ofNat, Nat.cast_ofNat]
      field_simp
    exact powers units 1074
  have rounded := finite?_decimalUnits one_pos value
  rw [roundUnits_eq_self finite.bits one_pos, finite?_eq_some_iff.mpr ⟨finite.lt, rfl⟩] at rounded
  exact (finite?_eq_some_iff.mp rounded).2

/-- The grids are tried one after the other, from the coarsest on. -/
theorem shortest_eq (units : Nat) :
    shortest units =
      (((List.range 17).map fun (n : Nat) => leadingExponent units - (n : ℤ)).findSome? fun e =>
        (nearestOnGrid? units e).map fun c => (c, e)).getD (expansion units) :=
  rfl

/-- The shortest decimal number reads back. -/
theorem decimalUnits_shortest (finite : IsFinite units) :
    decimalUnits (shortest units).1 (shortest units).2 = units := by
  rw [shortest_eq]
  cases found : ((List.range 17).map fun (n : Nat) => leadingExponent units - (n : ℤ)).findSome? fun e =>
      (nearestOnGrid? units e).map fun c => (c, e) with
  | none =>
    rw [Option.getD_none]
    exact decimalUnits_expansion finite
  | some decimal =>
    obtain ⟨e, _, reads⟩ := List.exists_of_findSome?_eq_some found
    obtain ⟨c, grid, rfl⟩ := Option.map_eq_some_iff.mp reads
    rw [Option.getD_some]
    exact decimalUnits_of_nearestOnGrid? grid

end Shortest

/-! ## Notations -/

section Notations

open Decimal

variable {ds : List Char}

/-- Digits whose first one has a given exponent, as a number. -/
def leadingValue (ds : List Char) (leading : ℤ) : ℚ :=
  digitsValue ds * 10 ^ (leading + 1 - ds.length)

/-- Zeros at the end are no digits of the value. -/
theorem leadingValue_append_zeros (ds : List Char) (k : Nat) (leading : ℤ) :
    leadingValue (ds ++ List.replicate k '0') leading = leadingValue ds leading := by
  have ten : (10 : ℚ) ≠ 0 := by norm_num
  have exponent : leading + 1 - ds.length = k + (leading + 1 - ((ds.length + k : Nat) : ℤ)) := by omega
  rw [leadingValue, leadingValue, digitsValue_append_zeros, List.length_append, List.length_replicate,
    exponent, zpow_add₀ ten, zpow_natCast, Nat.cast_mul, Nat.cast_pow, Nat.cast_ofNat, mul_assoc]

/-- Only zeros are stripped. -/
theorem exists_eq_stripZeros_append (ds : List Char) :
    ∃ k, ds = stripZeros ds ++ List.replicate k '0' := by
  refine ⟨(ds.reverse.takeWhile (· = '0')).length, ?_⟩
  have zeros : ds.reverse.takeWhile (· = '0') =
      List.replicate (ds.reverse.takeWhile (· = '0')).length '0' := by
    rw [List.eq_replicate_iff]
    refine ⟨rfl, fun c taken => ?_⟩
    have zero := List.mem_takeWhile_imp taken
    exact of_decide_eq_true zero
  rw [stripZeros, ← List.reverse_replicate, ← zeros, ← List.reverse_append,
    List.takeWhile_append_dropWhile, List.reverse_reverse]

/-- A literal without a sign denotes a number. -/
def Denotes (x : ℚ) (cs : List Char) : Prop :=
  ∃ whole fraction e mantissa exponent, IsMantissa whole fraction mantissa ∧ IsExponent e exponent ∧
    cs = mantissa ++ exponent ∧ (digitsValue (whole ++ fraction) : ℚ) * 10 ^ (e - fraction.length) = x

/-- What is read of a literal behind a sign has this sign and the size that the literal denotes. -/
theorem Denotes.exists_read? {x : ℚ} {cs sign : List Char} {negative : Bool} (denotes : Denotes x cs)
    (signed : IsSign negative sign) :
    ∃ d, read? (sign ++ cs) = some d ∧ d.negative = negative ∧ (d.coefficient : ℚ) * 10 ^ d.exponent = x := by
  obtain ⟨whole, fraction, e, mantissa, exponent, digits, scaled, rfl, value⟩ := denotes
  exact ⟨_, read?_append signed digits scaled, rfl, value⟩

theorem areDigits_zero : AreDigits ['0'] :=
  ⟨List.cons_ne_nil _ _, List.forall_mem_singleton.mpr rfl⟩

theorem isDigit_of_mem_zeros {k : Nat} : ∀ c ∈ List.replicate k '0', isDigit c := by
  intro c mem
  rw [List.eq_of_mem_replicate mem]
  decide

/-- Zeros in front of the digits, one of them before the point. -/
theorem denotes_positional_negSucc (digits : AreDigits ds) (n : Nat) :
    Denotes (leadingValue ds (.negSucc n)) (positional ds (.negSucc n)) := by
  have fraction : ∀ c ∈ List.replicate n '0' ++ ds, isDigit c :=
    List.forall_mem_append.mpr ⟨isDigit_of_mem_zeros, digits.all⟩
  refine ⟨_, _, 0, _, [], .pointed areDigits_zero fraction, .none, (List.append_nil _).symm, ?_⟩
  have value : digitsValue (['0'] ++ (List.replicate n '0' ++ ds)) = digitsValue ds :=
    digitsValue_zeros_append (n + 1) ds
  rw [value, leadingValue, List.length_append, List.length_replicate]
  congr 2
  omega

/-- Zeros behind the digits, the last of them behind the point and the others before it. -/
theorem denotes_positional_of_short (digits : AreDigits ds) {n : Nat} (short : ds.length ≤ n + 1) :
    Denotes (leadingValue ds (.ofNat n)) (positional ds (.ofNat n)) := by
  have all : ds ++ List.replicate (n + 1 - ds.length) '0' ++ ['0'] =
      ds ++ List.replicate (n + 2 - ds.length) '0' := by
    rw [List.append_assoc, ← List.replicate_succ']
    congr 2
    omega
  have before : AreDigits (ds ++ List.replicate (n + 1 - ds.length) '0') :=
    ⟨List.append_ne_nil_of_left_ne_nil digits.ne_nil _,
      List.forall_mem_append.mpr ⟨digits.all, isDigit_of_mem_zeros⟩⟩
  refine ⟨_, _, 0, _, [], .pointed before areDigits_zero.all, .none, ?_, ?_⟩
  · rw [positional, List.take_of_length_le short, List.drop_eq_nil_of_le short, List.append_nil]
    rfl
  · rw [all, ← leadingValue_append_zeros ds (n + 2 - ds.length), leadingValue, List.length_append,
      List.length_replicate, List.length_singleton, Int.ofNat_eq_natCast]
    congr 2
    omega

/-- The point among the digits. -/
theorem denotes_positional_of_long (digits : AreDigits ds) {n : Nat} (long : n + 1 < ds.length) :
    Denotes (leadingValue ds (.ofNat n)) (positional ds (.ofNat n)) := by
  have before : AreDigits (ds.take (n + 1)) := by
    refine ⟨?_, fun c mem => digits.all c (List.mem_of_mem_take mem)⟩
    rw [← List.length_pos_iff, List.length_take]
    omega
  have behind : ∀ c ∈ ds.drop (n + 1), isDigit c := fun c mem => digits.all c (List.mem_of_mem_drop mem)
  have some : ¬ (ds.drop (n + 1)).isEmpty := by
    rw [List.isEmpty_iff, List.drop_eq_nil_iff]
    omega
  refine ⟨_, _, 0, _, [], .pointed before behind, .none, ?_, ?_⟩
  · have full : n + 1 - (ds.take (n + 1)).length = 0 := by
      rw [List.length_take]
      omega
    rw [positional, if_neg some, List.rightpad, full, List.replicate_zero, List.append_nil,
      List.append_nil]
  · rw [List.take_append_drop, leadingValue, List.length_drop, Int.ofNat_eq_natCast]
    congr 2
    omega

theorem denotes_positional (digits : AreDigits ds) (leading : ℤ) :
    Denotes (leadingValue ds leading) (positional ds leading) := by
  cases leading with
  | negSucc n => exact denotes_positional_negSucc digits n
  | ofNat n =>
    rcases Nat.lt_or_ge (n + 1) ds.length with long | short
    · exact denotes_positional_of_long digits long
    · exact denotes_positional_of_short digits short

theorem denotes_scientific (digits : AreDigits ds) (leading : ℤ) :
    Denotes (leadingValue ds leading) (scientific ds leading) := by
  have exponent : IsExponent leading
      ('e' :: (if leading < 0 then '-' else '+') :: Nat.toDigits 10 leading.natAbs) := by
    have written : AreDigits (Nat.toDigits 10 leading.natAbs) :=
      ⟨Nat.toDigits_ne_nil, fun c => isDigit_of_mem_toDigits⟩
    split
    · next negative =>
      have scaled := IsExponent.written (.inl rfl) .minus written
      rw [signFactor_mul, if_pos rfl, digitsValue_toDigits] at scaled
      rwa [show -(leading.natAbs : ℤ) = leading by omega] at scaled
    · next positive =>
      have scaled := IsExponent.written (.inl rfl) .plus written
      rw [signFactor_mul, if_neg Bool.false_ne_true, digitsValue_toDigits] at scaled
      rwa [show (leading.natAbs : ℤ) = leading by omega] at scaled
  obtain ⟨d, fs, rfl⟩ := List.exists_cons_of_ne_nil digits.ne_nil
  have first : AreDigits [d] :=
    ⟨List.cons_ne_nil _ _, List.forall_mem_singleton.mpr (digits.all d List.mem_cons_self)⟩
  have behind : ∀ c ∈ fs, isDigit c := fun c mem => digits.all c (List.mem_cons_of_mem d mem)
  have value : (digitsValue ([d] ++ fs) : ℚ) * 10 ^ (leading - fs.length) =
      leadingValue (d :: fs) leading := by
    rw [leadingValue, List.length_cons]
    congr 2
    omega
  cases fs with
  | nil => exact ⟨_, _, leading, _, _, .whole first, exponent, rfl, value⟩
  | cons c fs => exact ⟨_, _, leading, _, _, .pointed first behind, exponent, rfl, value⟩

end Notations

/-! ## The text of a magnitude -/

section Texts

open Decimal

variable {units : Nat}

/-- The digits of the shortest decimal number. -/
def shortestDigits (units : Nat) : List Char :=
  Nat.toDigits 10 (shortest units).1

/-- The exponent of the first of these digits. -/
def shortestLeading (units : Nat) : ℤ :=
  (shortest units).2 + (shortestDigits units).length - 1

theorem magnitudeText_eq (some : units ≠ 0) :
    magnitudeText units =
      if -5 ≤ shortestLeading units ∧ shortestLeading units ≤ 15 then
        positional (stripZeros (shortestDigits units)) (shortestLeading units)
      else scientific (stripZeros (shortestDigits units)) (shortestLeading units) := by
  rw [magnitudeText, if_neg some]
  unfold shortestLeading shortestDigits
  cases shortest units with
  | mk coefficient exponent => rfl

theorem decimalUnits_zero (e : ℤ) : decimalUnits 0 e = 0 :=
  if_pos rfl

theorem shortest_ne_zero (finite : IsFinite units) (some : units ≠ 0) : (shortest units).1 ≠ 0 := by
  intro zero
  have reads := decimalUnits_shortest finite
  rw [zero, decimalUnits_zero] at reads
  exact some reads.symm

/-- The digits have the value of the shortest decimal number, with their zeros or without. -/
theorem leadingValue_stripZeros_shortestDigits (units : Nat) :
    leadingValue (stripZeros (shortestDigits units)) (shortestLeading units) =
      (shortest units).1 * 10 ^ (shortest units).2 := by
  obtain ⟨k, split⟩ := exists_eq_stripZeros_append (shortestDigits units)
  rw [← leadingValue_append_zeros _ k, ← split, leadingValue, shortestDigits, digitsValue_toDigits,
    shortestLeading, shortestDigits]
  congr 2
  omega

theorem areDigits_stripZeros (finite : IsFinite units) (some : units ≠ 0) :
    AreDigits (stripZeros (shortestDigits units)) := by
  obtain ⟨k, split⟩ := exists_eq_stripZeros_append (shortestDigits units)
  constructor
  · intro none
    have value := digitsValue_toDigits (shortest units).1
    rw [← shortestDigits, split, none, digitsValue_append_zeros] at value
    exact shortest_ne_zero finite some (value.symm.trans (Nat.zero_mul _))
  · intro c mem
    have digit : c ∈ shortestDigits units := split ▸ List.mem_append_left _ mem
    exact isDigit_of_mem_toDigits digit

/-- The text of a magnitude denotes a number that rounds to it. -/
theorem exists_denotes_magnitudeText (finite : IsFinite units) :
    ∃ (c : Nat) (e : ℤ), Denotes (c * 10 ^ e) (magnitudeText units) ∧ decimalUnits c e = units := by
  by_cases zero : units = 0
  · refine ⟨0, 0, ⟨['0'], ['0'], 0, _, [], .pointed areDigits_zero areDigits_zero.all, .none, ?_, ?_⟩, ?_⟩
    · rw [magnitudeText, if_pos zero]
      rfl
    · rw [show digitsValue (['0'] ++ ['0']) = 0 by decide, Nat.cast_zero, zero_mul, zero_mul]
    · rw [decimalUnits_zero, zero]
  · refine ⟨_, _, ?_, decimalUnits_shortest finite⟩
    rw [magnitudeText_eq zero, ← leadingValue_stripZeros_shortestDigits]
    have digits := areDigits_stripZeros finite zero
    split
    · exact denotes_positional digits _
    · exact denotes_scientific digits _

theorem exists_isSign_text (x : Binary64) :
    ∃ sign, IsSign x.negative sign ∧ x.text.toList = sign ++ magnitudeText x.units := by
  rw [text, String.toList_ofList]
  cases x.negative with
  | false => exact ⟨[], .none, rfl⟩
  | true => exact ⟨['-'], .minus, rfl⟩

/-- The text of a finite double is read back as this double, bit for bit. -/
theorem ofDecimal?_read?_text {x : Binary64} (finite : IsFinite x.units) :
    (Decimal.read? x.text.toList).bind ofDecimal? = some x := by
  obtain ⟨c, e, denotes, rounds⟩ := exists_denotes_magnitudeText finite
  obtain ⟨sign, signed, text⟩ := exists_isSign_text x
  obtain ⟨d, read, negative, value⟩ := denotes.exists_read? signed
  rw [text, read, Option.bind_some, ofDecimal?, finite?_decimalUnits_congr value, rounds,
    finite?_eq_some_iff.mpr ⟨finite.lt, rfl⟩, negative]
  rfl

theorem isFiniteNumber_text {x : Binary64} (finite : IsFinite x.units) : isFiniteNumber x.text := by
  rw [isFiniteNumber, ofDecimal?_read?_text finite]
  rfl

/-! ## Which doubles have a plus in their text -/

/-- A positive number lies between the powers of ten around its first digit. -/
theorem toDigits_bounds {n : Nat} (some : n ≠ 0) :
    10 ^ ((Nat.toDigits 10 n).length - 1) ≤ n ∧ n < 10 ^ (Nat.toDigits 10 n).length := by
  have pos : 0 < (Nat.toDigits 10 n).length := List.length_pos_iff.mpr Nat.toDigits_ne_nil
  refine ⟨?_, (Nat.length_toDigits_le_iff (by decide) pos).mp (Nat.le_refl _)⟩
  by_contra lt
  rcases Nat.eq_zero_or_pos ((Nat.toDigits 10 n).length - 1) with one | more
  · rw [one, Nat.pow_zero] at lt
    omega
  · have short := (Nat.length_toDigits_le_iff (by decide) more).mpr (Nat.lt_of_not_le lt)
    omega

theorem ten_zpow_shortestLeading (finite : IsFinite units) (some : units ≠ 0) :
    (10 : ℚ) ^ shortestLeading units ≤ (shortest units).1 * 10 ^ (shortest units).2 ∧
      ((shortest units).1 : ℚ) * 10 ^ (shortest units).2 < 10 ^ (shortestLeading units + 1) := by
  have ten : (10 : ℚ) ≠ 0 := by norm_num
  have power : (0 : ℚ) < 10 ^ (shortest units).2 := zpow_pos (by norm_num) _
  obtain ⟨lower, upper⟩ := toDigits_bounds (shortest_ne_zero finite some)
  have length : 0 < (shortestDigits units).length := List.length_pos_iff.mpr Nat.toDigits_ne_nil
  have first : shortestLeading units = ((shortestDigits units).length - 1 : Nat) + (shortest units).2 := by
    rw [shortestLeading]
    omega
  have next : shortestLeading units + 1 = (shortestDigits units).length + (shortest units).2 := by
    rw [shortestLeading]
    omega
  rw [next, first, zpow_add₀ ten, zpow_add₀ ten, zpow_natCast, zpow_natCast]
  constructor
  · exact mul_le_mul_of_nonneg_right (by exact_mod_cast lower) power.le
  · exact mul_lt_mul_of_pos_right (by exact_mod_cast upper) power

/-- The first digit stands at the seventeenth place before the point or further to the left exactly for
magnitudes from `10 ^ 16` on. -/
theorem sixteen_le_shortestLeading_iff (finite : IsFinite units) (some : units ≠ 0) :
    16 ≤ shortestLeading units ↔ 10 ^ 16 * one ≤ units := by
  have bits : HasFewBits (10 ^ 16 * one) := HasFewBits.mul_one ⟨5 ^ 16, 16, by decide, by decide⟩
  obtain ⟨lower, upper⟩ := ten_zpow_shortestLeading finite some
  obtain ⟨num, den, pos, value⟩ := exists_eq_div (shortest units).1 (shortest units).2
  have rounds : roundUnits (num * one) den = units := by
    have rounded := finite?_decimalUnits pos value
    rw [decimalUnits_shortest finite, finite?_eq_some_iff.mpr ⟨finite.lt, rfl⟩, eq_comm] at rounded
    exact (finite?_eq_some_iff.mp rounded).2
  have denPos : (0 : ℚ) < den := Nat.cast_pos.mpr pos
  rw [value] at lower upper
  constructor
  · intro large
    have le : (10 : ℚ) ^ (16 : ℤ) ≤ num / den := (zpow_le_zpow_right₀ (by norm_num) large).trans lower
    have natural : 10 ^ 16 * den ≤ num := by
      rw [le_div_iff₀ denPos] at le
      exact_mod_cast le
    rw [← rounds]
    refine le_roundUnits bits pos ?_
    rw [Nat.mul_right_comm]
    exact Nat.mul_le_mul_right one natural
  · intro large
    by_contra small
    have le : (num : ℚ) / den < 10 ^ (16 : ℤ) :=
      upper.trans_le (zpow_le_zpow_right₀ (by norm_num) (by omega))
    have natural : num ≤ 10 ^ 16 * den := by
      rw [div_lt_iff₀ denPos] at le
      exact_mod_cast le.le
    have least : units = 10 ^ 16 * one := by
      refine Nat.le_antisymm ?_ large
      rw [← rounds]
      refine roundUnits_le bits pos ?_
      rw [Nat.mul_right_comm]
      exact Nat.mul_le_mul_right one natural
    have leading : shortestLeading (10 ^ 16 * one) = 16 := by decide +kernel
    rw [least, leading] at small
    exact small (le_refl _)

/-- The characters of the notations besides digits. -/
theorem mem_positional {ds : List Char} {leading : ℤ} {c : Char} (mem : c ∈ positional ds leading) :
    c ∈ ds ∨ c = '0' ∨ c = '.' := by
  cases leading with
  | negSucc n =>
    simp only [positional, List.mem_cons, List.mem_append, List.mem_replicate] at mem
    rcases mem with zero | point | ⟨_, zero⟩ | digit
    · exact .inr (.inl zero)
    · exact .inr (.inr point)
    · exact .inr (.inl zero)
    · exact .inl digit
  | ofNat n =>
    simp only [positional, List.rightpad, List.mem_cons, List.mem_append, List.mem_replicate] at mem
    rcases mem with (digit | ⟨_, zero⟩) | point | behind
    · exact .inl (List.mem_of_mem_take digit)
    · exact .inr (.inl zero)
    · exact .inr (.inr point)
    · split at behind
      · exact .inr (.inl (List.mem_singleton.mp behind))
      · exact .inl (List.mem_of_mem_drop behind)

theorem mem_scientific {ds : List Char} {leading : ℤ} {c : Char} (mem : c ∈ scientific ds leading) :
    (c ∈ ds ∨ isDigit c) ∨ c = '.' ∨ c = 'e' ∨ c = if leading < 0 then '-' else '+' := by
  simp only [scientific, List.mem_cons, List.mem_append] at mem
  rcases mem with (first | behind) | letter | sign | exponent
  · exact .inl (.inl (List.mem_of_mem_take first))
  · split at behind
    · cases behind
    · rcases List.mem_cons.mp behind with point | digit
      · exact .inr (.inl point)
      · exact .inl (.inl (List.mem_of_mem_drop digit))
  · exact .inr (.inr (.inl letter))
  · exact .inr (.inr (.inr sign))
  · exact .inl (.inr (isDigit_of_mem_toDigits exponent))

theorem sign_mem_scientific (ds : List Char) (leading : ℤ) :
    (if leading < 0 then '-' else '+') ∈ scientific ds leading := by
  rw [scientific]
  exact List.mem_append_right _ (List.mem_cons_of_mem _ List.mem_cons_self)

/-- There is nothing but digits, a point and an exponent in the text of a magnitude, and a plus only from
`10 ^ 16` on. -/
theorem mem_magnitudeText (finite : IsFinite units) {c : Char} (mem : c ∈ magnitudeText units) :
    isDigit c ∨ c = '.' ∨ c = 'e' ∨ c = '-' ∨ c = '+' ∧ 10 ^ 16 * one ≤ units := by
  by_cases zero : units = 0
  · rw [magnitudeText, if_pos zero] at mem
    simp only [List.mem_cons, List.mem_nil_iff, or_false] at mem
    rcases mem with rfl | point | rfl
    · exact .inl (by decide)
    · exact .inr (.inl point)
    · exact .inl (by decide)
  · have digits := (areDigits_stripZeros finite zero).all
    rw [magnitudeText_eq zero] at mem
    split at mem
    · rcases mem_positional mem with digit | rfl | point
      · exact .inl (digits c digit)
      · exact .inl (by decide)
      · exact .inr (.inl point)
    · next outside =>
      rcases mem_scientific mem with (digit | digit) | point | letter | sign
      · exact .inl (digits c digit)
      · exact .inl digit
      · exact .inr (.inl point)
      · exact .inr (.inr (.inl letter))
      · split at sign
        · exact .inr (.inr (.inr (.inl sign)))
        · refine .inr (.inr (.inr (.inr ⟨sign, ?_⟩)))
          rw [← sixteen_le_shortestLeading_iff finite zero]
          omega

theorem plus_mem_magnitudeText (finite : IsFinite units) (large : 10 ^ 16 * one ≤ units) :
    '+' ∈ magnitudeText units := by
  have some : units ≠ 0 := by
    rintro rfl
    exact absurd large (by decide +kernel)
  have leading := (sixteen_le_shortestLeading_iff finite some).mpr large
  have sign := sign_mem_scientific (stripZeros (shortestDigits units)) (shortestLeading units)
  rw [if_neg (by omega)] at sign
  rwa [magnitudeText_eq some, if_neg (by omega)]

/-- There is nothing but digits, a point, an exponent and signs in the text of a double. -/
theorem mem_text {x : Binary64} (finite : IsFinite x.units) {c : Char} (mem : c ∈ x.text.toList) :
    isDigit c ∨ c = '.' ∨ c = 'e' ∨ c = '-' ∨ c = '+' ∧ 10 ^ 16 * one ≤ x.units := by
  rw [text, String.toList_ofList] at mem
  split at mem
  · rcases List.mem_cons.mp mem with minus | behind
    · exact .inr (.inr (.inr (.inl minus)))
    · exact mem_magnitudeText finite behind
  · exact mem_magnitudeText finite mem

/-- The text of a double does not begin with a plus. -/
theorem head_text_ne_plus {x : Binary64} (finite : IsFinite x.units) : ∀ c ∈ x.text.toList.head?, c ≠ '+' := by
  obtain ⟨_, _, ⟨_, _, _, _, exponent, digits, _, magnitude, _⟩, _⟩ := exists_denotes_magnitudeText finite
  rw [text, String.toList_ofList]
  split
  · intro c first
    cases first
    decide
  · rw [magnitude]
    exact fun c first => (digits.ne_sign exponent c first).1

/-- The doubles with a plus in their text are those of a size from `10 ^ 16` on. -/
theorem plus_mem_text_iff {x : Binary64} (finite : IsFinite x.units) :
    '+' ∈ x.text.toList ↔ 10 ^ 16 * one ≤ x.units := by
  constructor
  · intro mem
    rcases mem_text finite mem with digit | point | letter | minus | ⟨_, large⟩
    · exact absurd digit (by decide)
    · exact absurd point (by decide)
    · exact absurd letter (by decide)
    · exact absurd minus (by decide)
    · exact large
  · intro large
    have mem := plus_mem_magnitudeText finite large
    rw [text, String.toList_ofList]
    split
    · exact List.mem_cons_of_mem _ mem
    · exact mem

end Texts

end Binary64

end TypedFilters
