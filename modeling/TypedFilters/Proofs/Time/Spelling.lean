import TypedFilters.Proofs.Text.Numerals
import TypedFilters.Proofs.Time.Clock
import TypedFilters.Proofs.Time.UtcText

/-!
# How times in UTC are spelled

A time in UTC is spelled `YYYY-MM-DDTHH:MM:SSZ`, with a point and three, six or nine digits in front of
the `Z` if there is a fraction, as few of them as are exact, and with a sign in front of a year outside
of 0 to 9999 (`SpellsUtc`). The text of a time is its only spelling (`spellsUtc_iff`), and a text spells
one time at most (`SpellsUtc.time_unique`), so instants with the same text show the same time.
-/

namespace TypedFilters

open Text

/-! ## The form -/

/-- The text of a year: four digits, or a sign and at least four digits for a year outside of 0 to 9999.
-/
inductive IsUtcYear : Int → List Char → Prop
  | plain {year : Nat} {ds : List Char} (numeral : Numeral 4 year ds) : IsUtcYear year ds
  | before {year : Nat} {ds : List Char} (early : 0 < year)
      (numeral : Numeral (max 4 (Nat.toDigits 10 year).length) year ds) : IsUtcYear (-year) ('-' :: ds)
  | after {year : Nat} {ds : List Char} (late : 9999 < year)
      (numeral : Numeral (max 4 (Nat.toDigits 10 year).length) year ds) : IsUtcYear year ('+' :: ds)

/-- The fraction of a second, given in nanoseconds, with the fewest of 0, 3, 6 or 9 digits that is
exact. -/
inductive IsShortestFraction : Nat → List Char → Prop
  | none : IsShortestFraction 0 []
  | digits {width n : Nat} {ds : List Char} (known : width ∈ [3, 6, 9]) (numeral : Numeral width n ds)
      (fewest : ∀ fewer ∈ [0, 3, 6], fewer < width → ¬ 10 ^ (9 - fewer) ∣ n * 10 ^ (9 - width)) :
      IsShortestFraction (n * 10 ^ (9 - width)) ('.' :: ds)

/-- The characters spell a civil time in UTC. -/
inductive SpellsUtc : Civil → List Char → Prop
  | text {c : Civil} {year month day hour minute second fraction : List Char}
      (isYear : IsUtcYear c.year year) (isMonth : Numeral 2 c.month month) (isDay : Numeral 2 c.day day)
      (isHour : Numeral 2 c.hour hour) (isMinute : Numeral 2 c.minute minute)
      (isSecond : Numeral 2 c.second second) (isFraction : IsShortestFraction c.nanos fraction) :
      SpellsUtc c (year ++ '-' :: (month ++ '-' :: (day ++ 'T' :: (hour ++ ':' :: (minute ++ ':' ::
        (second ++ (fraction ++ ['Z'])))))))

/-! ## The text of a time spells it -/

theorem numeral_padded {width n : Nat} (pos : 0 < width) (small : n < 10 ^ width) :
    Numeral width n (Instant.padded width n) :=
  ⟨length_padded pos small, fun _ => isDigit_of_mem_padded, digitsValue_padded⟩

/-- A number that is padded has its own digits, but not fewer than the width. -/
theorem numeral_padded_max (width n : Nat) :
    Numeral (max width (Nat.toDigits 10 n).length) n (Instant.padded width n) := by
  refine ⟨?_, fun _ => isDigit_of_mem_padded, digitsValue_padded⟩
  rw [Instant.padded, List.leftpad, List.length_append, List.length_replicate]
  omega

theorem isUtcYear_yearText (year : Int) : IsUtcYear year (Instant.yearText year) := by
  unfold Instant.yearText
  split
  · next inside =>
    have four := IsUtcYear.plain
      (numeral_padded (show 0 < 4 by decide) (show year.toNat < 10 ^ 4 by omega))
    rwa [Int.toNat_of_nonneg inside.1] at four
  · next outside =>
    have digits := numeral_padded_max 4 year.natAbs
    split
    · next negative =>
      have spelled := IsUtcYear.before (by omega) digits
      rwa [show -(year.natAbs : Int) = year by omega] at spelled
    · next positive =>
      have spelled := IsUtcYear.after (by omega) digits
      rwa [show (year.natAbs : Int) = year by omega] at spelled

/-- A fraction that is exact with so many digits, but not with fewer, is spelled with these. -/
theorem isShortestFraction_padded (width : Nat) {nanos : Nat} (known : width ∈ [3, 6, 9])
    (small : nanos < 1000000000) (exact : 10 ^ (9 - width) ∣ nanos)
    (fewest : ∀ fewer ∈ [0, 3, 6], fewer < width → ¬ 10 ^ (9 - fewer) ∣ nanos) :
    IsShortestFraction nanos ('.' :: Instant.padded width (nanos / 10 ^ (9 - width))) := by
  obtain ⟨n, rfl⟩ := exact
  rw [Nat.mul_comm] at small fewest ⊢
  rw [Nat.mul_div_cancel _ (Nat.pow_pos (by decide))]
  have widths : 0 < width ∧ n < 10 ^ width := by
    simp only [List.mem_cons, List.not_mem_nil, or_false] at known
    rcases known with rfl | rfl | rfl <;> omega
  exact .digits known (numeral_padded widths.1 widths.2) fewest

theorem isShortestFraction_fractionText {nanos : Nat} (small : nanos < 1000000000) :
    IsShortestFraction nanos (Instant.fractionText nanos) := by
  unfold Instant.fractionText
  split
  · next zero =>
    rw [zero]
    exact .none
  next some =>
  have whole : ¬ 10 ^ (9 - 0) ∣ nanos := by omega
  split
  · refine isShortestFraction_padded 3 (by decide) small (by omega) ?_
    intro fewer known less
    obtain rfl : fewer = 0 := by
      simp only [List.mem_cons, List.not_mem_nil, or_false] at known
      omega
    exact whole
  next millis =>
  have thousandths : ¬ 10 ^ (9 - 3) ∣ nanos := by omega
  split
  · refine isShortestFraction_padded 6 (by decide) small (by omega) ?_
    intro fewer known less
    obtain rfl | rfl : fewer = 0 ∨ fewer = 3 := by
      simp only [List.mem_cons, List.not_mem_nil, or_false] at known
      omega
    · exact whole
    · exact thousandths
  · next micros =>
    have millionths : ¬ 10 ^ (9 - 6) ∣ nanos := by omega
    have spelled := isShortestFraction_padded 9 (by decide) small (one_dvd nanos) ?_
    · rwa [Nat.sub_self, Nat.pow_zero, Nat.div_one] at spelled
    · intro fewer known _
      simp only [List.mem_cons, List.not_mem_nil, or_false] at known
      rcases known with rfl | rfl | rfl <;> assumption

theorem spellsUtc_civilText {c : Civil} (time : c.IsTime) : SpellsUtc c (Instant.civilText c) := by
  rcases time with ⟨⟨_, month, _, day⟩, hour, minute, second, nanos⟩
  have short := Civil.daysInMonth_le c.year c.month
  have two : ∀ n, n < 100 → Numeral 2 n (Instant.padded 2 n) := fun _ => numeral_padded Nat.two_pos
  simp only [Instant.civilText, List.append_assoc, List.cons_append]
  exact .text (isUtcYear_yearText c.year) (two _ (by omega)) (two _ (by omega)) (two _ (by omega))
    (two _ (by omega)) (two _ (by omega)) (isShortestFraction_fractionText nanos)

/-! ## Nothing else spells it -/

theorem IsUtcYear.eq_yearText {year : Int} {cs : List Char} (isYear : IsUtcYear year cs) :
    cs = Instant.yearText year := by
  cases isYear with
  | @plain year _ numeral =>
    have small : year < 10 ^ 4 := by
      rw [← numeral.value, ← numeral.length_eq]
      exact digitsValue_lt numeral.digits
    rw [Instant.yearText, if_pos (by omega), Int.toNat_natCast]
    exact numeral.unique (numeral_padded (by decide) small)
  | @before year ds early numeral =>
    rw [Instant.yearText, if_neg (by omega), if_pos (by omega), Int.natAbs_neg, Int.natAbs_natCast]
    exact congrArg _ (numeral.unique (numeral_padded_max 4 year))
  | @after year ds late numeral =>
    rw [Instant.yearText, if_neg (by omega), if_neg (by omega), Int.natAbs_natCast]
    exact congrArg _ (numeral.unique (numeral_padded_max 4 year))

theorem IsShortestFraction.eq_fractionText {nanos : Nat} {cs : List Char}
    (isFraction : IsShortestFraction nanos cs) : cs = Instant.fractionText nanos := by
  cases isFraction with
  | none => rfl
  | @digits width n ds known numeral fewest =>
    have small : n < 10 ^ width := by
      rw [← numeral.value, ← numeral.length_eq]
      exact digitsValue_lt numeral.digits
    have whole := fewest 0 (by decide)
    have thousandths := fewest 3 (by decide)
    have millionths := fewest 6 (by decide)
    simp only [List.mem_cons, List.not_mem_nil, or_false] at known
    rcases known with rfl | rfl | rfl
    · have cut : n * 10 ^ (9 - 3) / 1000000 = n := by omega
      rw [Instant.fractionText, if_neg (by omega), if_pos (by omega), cut]
      exact congrArg _ (numeral.unique (numeral_padded (by decide) small))
    · have cut : n * 10 ^ (9 - 6) / 1000 = n := by omega
      rw [Instant.fractionText, if_neg (by omega), if_neg (by omega), if_pos (by omega), cut]
      exact congrArg _ (numeral.unique (numeral_padded (by decide) small))
    · have cut : n * 10 ^ (9 - 9) = n := by omega
      rw [cut] at whole thousandths millionths ⊢
      rw [Instant.fractionText, if_neg (by omega), if_neg (by omega), if_neg (by omega)]
      exact congrArg _ (numeral.unique (numeral_padded (by decide) small))

theorem SpellsUtc.eq_civilText {c : Civil} {cs : List Char} (spells : SpellsUtc c cs) (time : c.IsTime) :
    cs = Instant.civilText c := by
  rcases time with ⟨⟨_, month, _, day⟩, hour, minute, second, _⟩
  have short := Civil.daysInMonth_le c.year c.month
  have two : ∀ {n ds}, n < 100 → Numeral 2 n ds → ds = Instant.padded 2 n :=
    fun small numeral => numeral.unique (numeral_padded Nat.two_pos small)
  cases spells with
  | text isYear isMonth isDay isHour isMinute isSecond isFraction =>
    simp only [Instant.civilText, List.append_assoc, List.cons_append]
    rw [isYear.eq_yearText, two (by omega) isMonth, two (by omega) isDay, two (by omega) isHour,
      two (by omega) isMinute, two (by omega) isSecond, isFraction.eq_fractionText]

/-- The text of a time is its only spelling. -/
theorem spellsUtc_iff {c : Civil} {cs : List Char} (time : c.IsTime) :
    SpellsUtc c cs ↔ cs = Instant.civilText c := by
  constructor
  · intro spells
    exact spells.eq_civilText time
  · intro text
    rw [text]
    exact spellsUtc_civilText time

/-! ## A text spells one time -/

section Unique

variable {cs ds rest rest' : List Char}

theorem Text.Numeral.unique_append {width m n : Nat} (left : Numeral width m cs)
    (right : Numeral width n ds) (same : cs ++ rest = ds ++ rest') : m = n ∧ rest = rest' := by
  obtain ⟨digits, rests⟩ := List.append_inj same (left.length_eq.trans right.length_eq.symm)
  exact ⟨by rw [← left.value, ← right.value, digits], rests⟩

/-- The digits of a numeral end where a hyphen comes. -/
theorem Text.Numeral.unique_before_hyphen {width width' m n : Nat} (left : Numeral width m cs)
    (right : Numeral width' n ds) (same : cs ++ '-' :: rest = ds ++ '-' :: rest') :
    m = n ∧ rest = rest' := by
  have hyphen : ¬ isDigit '-' := by decide
  have split := splitDigits_append left.digits hyphen rest
  rw [same, splitDigits_append right.digits hyphen rest'] at split
  simp only [Prod.mk.injEq, List.cons.injEq, true_and] at split
  rcases split with ⟨digits, rests⟩
  exact ⟨by rw [← left.value, ← right.value, digits], rests.symm⟩

/-- A numeral does not start with a sign. -/
theorem Text.Numeral.append_ne_sign {width n : Nat} (numeral : Numeral width n cs) (pos : 0 < width)
    {sign : Char} (isSign : ¬ isDigit sign) : cs ++ rest ≠ sign :: rest' := by
  intro starts
  obtain ⟨digit, digits, rfl⟩ := List.exists_cons_of_ne_nil (numeral.ne_nil pos)
  rw [List.cons_append, List.cons.injEq] at starts
  exact isSign (numeral.digits sign (starts.1 ▸ List.mem_cons_self))

theorem IsUtcYear.unique_append {y z : Int} (left : IsUtcYear y cs) (right : IsUtcYear z ds)
    (same : cs ++ '-' :: rest = ds ++ '-' :: rest') : y = z ∧ rest = rest' := by
  have four : 0 < 4 := by decide
  have minus : ¬ isDigit '-' := by decide
  have plus : ¬ isDigit '+' := by decide
  cases left with
  | plain numeral =>
    cases right with
    | plain numeral' =>
      exact (numeral.unique_before_hyphen numeral' same).imp_left fun value => by rw [value]
    | before => exact absurd same (numeral.append_ne_sign four minus)
    | after => exact absurd same (numeral.append_ne_sign four plus)
  | before _ numeral =>
    cases right with
    | plain numeral' => exact absurd same.symm (numeral'.append_ne_sign four minus)
    | before _ numeral' =>
      exact (numeral.unique_before_hyphen numeral' (List.cons.inj same).2).imp_left fun value => by
        rw [value]
    | after => exact absurd (List.cons.inj same).1 (by decide)
  | after _ numeral =>
    cases right with
    | plain numeral' => exact absurd same.symm (numeral'.append_ne_sign four plus)
    | before => exact absurd (List.cons.inj same).1 (by decide)
    | after _ numeral' =>
      exact (numeral.unique_before_hyphen numeral' (List.cons.inj same).2).imp_left fun value => by
        rw [value]

theorem IsShortestFraction.unique {m n : Nat} (left : IsShortestFraction m cs)
    (right : IsShortestFraction n cs) : m = n := by
  cases left with
  | none =>
    cases right
    rfl
  | digits _ numeral =>
    cases right with
    | digits _ numeral' =>
      rw [← numeral.value, ← numeral'.value, ← numeral.length_eq, ← numeral'.length_eq]

theorem SpellsUtc.time_unique {c d : Civil} (left : SpellsUtc c cs) (right : SpellsUtc d cs) :
    c = d := by
  generalize same : cs = ds at right
  cases left with
  | text isYear isMonth isDay isHour isMinute isSecond isFraction =>
    cases right with
    | text isYear' isMonth' isDay' isHour' isMinute' isSecond' isFraction' =>
      obtain ⟨year, behind⟩ := isYear.unique_append isYear' same
      obtain ⟨month, behind⟩ := isMonth.unique_append isMonth' behind
      obtain ⟨day, behind⟩ := isDay.unique_append isDay' (List.cons.inj behind).2
      obtain ⟨hour, behind⟩ := isHour.unique_append isHour' (List.cons.inj behind).2
      obtain ⟨minute, behind⟩ := isMinute.unique_append isMinute' (List.cons.inj behind).2
      obtain ⟨second, behind⟩ := isSecond.unique_append isSecond' (List.cons.inj behind).2
      rw [List.append_cancel_right behind] at isFraction
      have nanos := isFraction.unique isFraction'
      rcases c with ⟨_, _, _, _, _, _, _⟩
      rcases d with ⟨_, _, _, _, _, _, _⟩
      simp only [Civil.mk.injEq]
      exact ⟨year, month, day, hour, minute, second, nanos⟩

end Unique

end TypedFilters
