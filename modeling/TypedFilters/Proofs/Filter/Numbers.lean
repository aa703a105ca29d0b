import TypedFilters.Proofs.Decimal.Overflow
import TypedFilters.Proofs.Filter.WellTyped

/-!
# The numbers that are accepted

A value of a number field is accepted if what is left of it without blanks around spells a decimal
number that rounds to a finite double, and then it is kept in this spelling. In particular no name of an
infinity or of something that is no number is accepted, since there are no digits in it.
-/

namespace TypedFilters

open Text

/-- A text is a finite number exactly if it spells a number below the middle between the greatest finite
double and the next. -/
theorem isFiniteNumber_iff_spells (s : String) :
    isFiniteNumber s ↔ ∃ x, Decimal.Spells x s.toList ∧ |x| < 2 ^ 1024 - 2 ^ 970 := by
  simp only [isFiniteNumber_iff, Decimal.spells_iff]
  constructor
  · rintro ⟨literal, double, read, rounded⟩
    have finite : (Binary64.ofDecimal? literal).isSome := Option.isSome_iff_exists.mpr ⟨double, rounded⟩
    exact ⟨literal.toRat, ⟨literal, read, rfl⟩, (Binary64.isSome_ofDecimal?_iff literal).mp finite⟩
  · rintro ⟨_, ⟨literal, read, rfl⟩, small⟩
    have finite := (Binary64.isSome_ofDecimal?_iff literal).mpr small
    obtain ⟨double, rounded⟩ := Option.isSome_iff_exists.mp finite
    exact ⟨literal, double, read, rounded⟩

/-- The case of letters does not matter for the digits in a text. -/
theorem not_isDigit_of_lower {word : String} (letters : ∀ c ∈ (lower word).toList, ¬ isDigit c) :
    ∀ c ∈ word.toList, ¬ isDigit c := by
  intro c mem digit
  have bounds := (isDigit_iff c).mp digit
  have kept : lowerChar c = c := by
    have capital : ¬ ('A' ≤ c ∧ c ≤ 'Z') := by
      rintro ⟨first, _⟩
      have above : 65 ≤ c.toNat := first
      omega
    rw [lowerChar, if_neg capital]
  refine letters c ?_ digit
  rw [lower, String.toList_ofList, List.mem_map]
  exact ⟨c, mem, kept⟩

namespace ValueKind

/-- Whatever is left and is no finite number is refused. -/
theorem normalize_eq_notNumber {choices : List String} {v : String} (some : trim v ≠ "")
    (other : ¬ isFiniteNumber (trim v)) :
    number.normalize choices v = .error (.notNumber (trim v)) := by
  rw [normalize, if_neg (by decide), if_neg (mt String.isEmpty_iff.mp some), checkTrimmed, if_neg other]

/-- A value is accepted as a number exactly if it is a decimal number that rounds to a finite double, and
is kept as it is without the blanks around. It is refused by its name if it is infinite or no number, in
whatever case, with a sign or without. -/
theorem number_iff_finite_decimal (choices : List String) (v : String) :
    (∀ s, number.normalize choices v = .ok s ↔
      s = trim v ∧ ∃ x, Decimal.Spells x (trim v).toList ∧ |x| < 2 ^ 1024 - 2 ^ 970) ∧
    (∀ x y, Decimal.Spells x (trim v).toList → Decimal.Spells y (trim v).toList → x = y) ∧
    ∀ sign word, sign ∈ ["", "+", "-"] → lower word ∈ ["inf", "infinity", "nan"] →
      trim v = sign ++ word → number.normalize choices v = .error (.notNumber (trim v)) := by
  refine ⟨fun s => ?_, fun x y => Decimal.Spells.unique, fun sign word signed named trimmed => ?_⟩
  · rw [normalize_eq_ok_iff_of_not_isFreeText (by decide), checkTrimmed, checked_eq_ok_iff,
      isFiniteNumber_iff_spells]
    constructor
    · rintro ⟨_, finite, rfl⟩
      exact ⟨rfl, finite⟩
    · rintro ⟨rfl, finite⟩
      refine ⟨fun empty => ?_, finite, rfl⟩
      obtain ⟨x, spells, _⟩ := finite
      obtain ⟨c, mem, _⟩ := spells.exists_isDigit
      rw [empty] at mem
      cases mem
  · have signs : ∀ sign ∈ ["", "+", "-"], sign.toList.any isDigit = false := by decide
    have names : ∀ name ∈ ["inf", "infinity", "nan"], name.toList.any isDigit = false := by decide
    have none : ∀ c ∈ (trim v).toList, ¬ isDigit c := by
      rw [trimmed, String.toList_append, List.forall_mem_append]
      exact ⟨List.any_eq_false.mp (signs sign signed),
        not_isDigit_of_lower (List.any_eq_false.mp (names _ named))⟩
    have some : trim v ≠ "" := by
      rw [trimmed, ne_eq, String.append_eq_empty_iff]
      rintro ⟨_, rfl⟩
      exact absurd named (by decide)
    refine normalize_eq_notNumber some fun finite => ?_
    obtain ⟨x, spells, _⟩ := (isFiniteNumber_iff_spells _).mp finite
    obtain ⟨c, mem, digit⟩ := spells.exists_isDigit
    exact none c mem digit

/-- The exponent counts with its sign, what is kept is spelled as before, a number beyond the greatest
double is not kept, and no infinity is. -/
theorem number_iff_finite_decimal_of_three_values :
    number.normalize [] " -.025E+1\n" = .ok "-.025E+1" ∧
    number.normalize [] "0.1e311" ≠ .ok "0.1e311" ∧
    number.normalize [] " +Infinity" = .error (.notNumber "+Infinity") := by
  have small : Decimal.read? "-.025E+1".toList = some ⟨true, 25, -2⟩ := by decide
  have large : Decimal.read? "0.1e311".toList = some ⟨false, 1, 310⟩ := by decide
  refine ⟨?_, ?_, ?_⟩
  · obtain ⟨finite, _⟩ := number_iff_finite_decimal [] " -.025E+1\n"
    refine (finite _).mpr ⟨by decide, _, Decimal.spells_of_read? small, ?_⟩
    apply Binary64.lt_overflow_limit_of_lt_one
    rw [Decimal.abs_toRat]
    norm_num
  · intro kept
    obtain ⟨finite, unique, _⟩ := number_iff_finite_decimal [] "0.1e311"
    obtain ⟨_, x, spells, lt⟩ := (finite _).mp kept
    rw [unique x _ spells (Decimal.spells_of_read? large), Decimal.abs_toRat] at lt
    have limit := Binary64.overflow_limit_le_ten_pow (Nat.le_refl 310)
    rw [Nat.cast_pow, Nat.cast_ofNat] at limit
    refine absurd lt (not_lt.mpr ?_)
    rw [Nat.cast_one, one_mul]
    exact limit
  · exact (number_iff_finite_decimal [] " +Infinity").2.2 "+" "Infinity" (by decide) (by decide) (by decide)

end ValueKind

end TypedFilters
