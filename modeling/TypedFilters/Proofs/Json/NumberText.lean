import TypedFilters.Proofs.Decimal.Shortest
import TypedFilters.Proofs.Decimal.Overflow
import TypedFilters.Proofs.Filter.WellTyped
import TypedFilters.Proofs.Json.Numbers
import TypedFilters.Proofs.Text.Trimming

/-!
# The text of a number that is read

A number that is read has a text that is a finite decimal number again (`Number.InRange.isFiniteNumber`),
without blanks. Digits, a point, an exponent and minus signs are all there is in it, except that a double
from `10 ^ 16` on has an exponent with a plus (`Number.InRange.plus_mem_text_iff`).
-/

namespace TypedFilters.Json.Number

open Text

/-- The number is a double of a size from `10 ^ 16` on. Integers are not, however large they are. -/
def IsLarge : Number → Prop
  | integer _ => False
  | float x => 10 ^ 16 * Binary64.one ≤ x.units

section Integers

/-- The text of an integer is a minus or none and the digits of its size. -/
theorem exists_isSign_toString (i : ℤ) :
    ∃ negative sign, Decimal.IsSign negative sign ∧ (∀ c ∈ sign, c = '-') ∧
      (toString i).toList = sign ++ Nat.toDigits 10 i.natAbs := by
  rw [Int.toString_eq_repr, Int.repr_eq_if]
  split
  · next natural =>
    have size : i.toNat = i.natAbs := by omega
    rw [Nat.toList_repr, size]
    exact ⟨false, [], .none, List.forall_mem_nil _, rfl⟩
  · next negative =>
    have size : (-i).toNat = i.natAbs := by omega
    rw [String.toList_append, Nat.toList_repr, size]
    exact ⟨true, ['-'], .minus, List.forall_mem_singleton.mpr rfl, rfl⟩

theorem mem_toString {i : ℤ} {c : Char} (mem : c ∈ (toString i).toList) : isDigit c ∨ c = '-' := by
  obtain ⟨_, sign, _, minus, text⟩ := exists_isSign_toString i
  rw [text, List.mem_append] at mem
  rcases mem with front | digit
  · exact .inr (minus c front)
  · exact .inl (isDigit_of_mem_toDigits digit)

theorem isFiniteNumber_toString {i : ℤ} (lower : -2 ^ 63 ≤ i) (upper : i < 2 ^ 64) :
    isFiniteNumber (toString i) := by
  obtain ⟨negative, sign, signed, _, text⟩ := exists_isSign_toString i
  have digits : Decimal.AreDigits (Nat.toDigits 10 i.natAbs) :=
    ⟨Nat.toDigits_ne_nil, fun _ => isDigit_of_mem_toDigits⟩
  have read := Decimal.read?_append signed (.whole digits) .none
  have small : (i.natAbs : ℚ) < 2 ^ 64 := by
    have size : i.natAbs < 2 ^ 64 := by omega
    exact_mod_cast size
  rw [List.append_nil, ← text] at read
  rw [isFiniteNumber, read, Option.bind_some, Binary64.isSome_ofDecimal?_iff, Decimal.abs_toRat,
    digitsValue_toDigits, List.length_nil, Nat.cast_zero, sub_zero, zpow_zero, mul_one]
  exact Binary64.lt_overflow_limit_of_lt_two_pow (by decide) small

end Integers

namespace InRange

variable {n : Number}

/-- The text of a number that is read is a finite number. -/
theorem isFiniteNumber (inRange : n.InRange) : isFiniteNumber n.text := by
  cases n with
  | integer i => exact isFiniteNumber_toString inRange.1 inRange.2
  | float x => exact Binary64.isFiniteNumber_text inRange

theorem mem_text (inRange : n.InRange) {c : Char} (mem : c ∈ n.text.toList) :
    isDigit c ∨ c = '.' ∨ c = 'e' ∨ c = '-' ∨ c = '+' ∧ n.IsLarge := by
  cases n with
  | integer i =>
    rcases mem_toString mem with digit | minus
    · exact .inl digit
    · exact .inr (.inr (.inr (.inl minus)))
  | float x => exact Binary64.mem_text inRange mem

theorem plus_mem_text_iff (inRange : n.InRange) : '+' ∈ n.text.toList ↔ n.IsLarge := by
  cases n with
  | integer i =>
    refine iff_of_false (fun mem => ?_) id
    rcases mem_toString mem with digit | minus
    · cases digit
    · cases minus
  | float x => exact Binary64.plus_mem_text_iff inRange

/-- There are no blanks in the text of a number. -/
theorem not_isBlankChar (inRange : n.InRange) : ∀ c ∈ n.text.toList, ¬ isBlankChar c := by
  intro c mem
  rcases inRange.mem_text mem with digit | rfl | rfl | rfl | ⟨rfl, _⟩
  · have bounds := (isDigit_iff c).mp digit
    exact not_isBlankChar_of_visible (by omega) (by omega)
  · decide
  · decide
  · decide
  · decide

theorem text_ne_empty (inRange : n.InRange) : n.text ≠ "" := by
  intro empty
  have finite := inRange.isFiniteNumber
  rw [empty] at finite
  cases finite

theorem trim_text (inRange : n.InRange) : trim n.text = n.text := by
  have trimmed : IsTrimmed n.text :=
    ⟨fun c first => inRange.not_isBlankChar c (List.mem_of_mem_head? first),
      fun c last => inRange.not_isBlankChar c (List.mem_of_getLast? last)⟩
  exact trimmed.trim_eq

theorem not_isBlank (inRange : n.InRange) : ¬ isBlank n.text := by
  rw [← trim_eq_empty_iff, inRange.trim_text]
  exact inRange.text_ne_empty

/-- As a value of a number field, the text of a number is kept as it is. -/
theorem normalize_text (inRange : n.InRange) (choices : List String) :
    ValueKind.number.normalize choices n.text = .ok n.text := by
  rw [ValueKind.normalize_eq_ok_iff_of_not_isFreeText (by decide), inRange.trim_text, ValueKind.checkTrimmed,
    ValueKind.checked_eq_ok_iff]
  exact ⟨inRange.text_ne_empty, inRange.isFiniteNumber, rfl⟩

end InRange

end TypedFilters.Json.Number
