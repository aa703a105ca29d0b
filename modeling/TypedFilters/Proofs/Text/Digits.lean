import Mathlib.Algebra.Ring.Nat
import Mathlib.Data.List.TakeDrop
import Mathlib.Data.List.TakeWhile
import TypedFilters.Decimal.Literal

/-!
# Reading digits back

`Nat.toDigits 10` writes a number, `digitsValue` reads digits. Reading undoes writing
(`digitsValue_toDigits`), also behind zeros that fill up a field of fixed width
(`digitsValue_zeros_append`). `Decimal.splitDigits` takes all digits at the front of a text
(`splitDigits_eq`), and so the digits that stand in front of something else
(`splitDigits_append_of_ends`).
-/

namespace TypedFilters.Text

/-- A digit is a character between the two ends of the digits. -/
theorem isDigit_iff (c : Char) : isDigit c ↔ 48 ≤ c.toNat ∧ c.toNat ≤ 57 := by
  have bounds : '0' ≤ c ∧ c ≤ '9' ↔ 48 ≤ c.toNat ∧ c.toNat ≤ 57 := Iff.rfl
  unfold isDigit digit?
  split
  · next digit => exact ⟨fun _ => bounds.mp digit, fun _ => rfl⟩
  · next other => exact ⟨fun some => (Bool.false_ne_true some).elim, fun h => (other (bounds.mpr h)).elim⟩

theorem isDigit_eq_true_iff_isDigit (c : Char) : isDigit c ↔ c.isDigit := by
  rw [isDigit_iff, Char.isDigit, Bool.and_eq_true, decide_eq_true_iff, decide_eq_true_iff]
  exact Iff.rfl

theorem digit?_of_isDigit {c : Char} (digit : isDigit c) : digit? c = some (c.toNat - 48) := by
  have bounds : '0' ≤ c ∧ c ≤ '9' := (isDigit_iff c).mp digit
  rw [digit?, if_pos bounds]

/-- Digits are read as the library reads them. -/
theorem digitsValue_eq_ofDigitChars {cs : List Char} (digits : ∀ c ∈ cs, isDigit c) :
    digitsValue cs = Nat.ofDigitChars 10 cs 0 := by
  suffices same : ∀ n, cs.foldl (fun n c => 10 * n + (digit? c).getD 0) n =
      Nat.ofDigitChars 10 cs n from same 0
  induction cs with
  | nil => exact fun _ => rfl
  | cons c cs ih =>
    intro n
    have head := digit?_of_isDigit (digits c List.mem_cons_self)
    rw [List.foldl_cons, Nat.ofDigitChars_cons, head]
    exact ih (fun d hd => digits d (List.mem_cons_of_mem c hd)) _

theorem isDigit_of_mem_toDigits {n : Nat} {c : Char} (written : c ∈ Nat.toDigits 10 n) :
    isDigit c :=
  (isDigit_eq_true_iff_isDigit c).mpr (Nat.isDigit_of_mem_toDigits (by decide) (by decide) written)

/-- Zeros in front of digits do not change what they denote. -/
theorem digitsValue_zeros_append (k : Nat) (cs : List Char) :
    digitsValue (List.replicate k '0' ++ cs) = digitsValue cs := by
  induction k with
  | zero => rfl
  | succ k ih =>
    rw [List.replicate_succ, List.cons_append, digitsValue, List.foldl_cons]
    exact ih

/-- Zeros behind digits multiply what they denote. -/
theorem digitsValue_append_zeros (cs : List Char) (k : Nat) :
    digitsValue (cs ++ List.replicate k '0') = digitsValue cs * 10 ^ k := by
  induction k with
  | zero => rw [List.replicate_zero, List.append_nil, Nat.pow_zero, Nat.mul_one]
  | succ k ih =>
    have zero : digit? '0' = some 0 := by decide
    rw [List.replicate_succ', ← List.append_assoc, digitsValue, List.foldl_append, ← digitsValue, ih,
      List.foldl_cons, List.foldl_nil, zero, Option.getD_some, Nat.add_zero, Nat.pow_succ,
      Nat.mul_comm 10, Nat.mul_assoc]

theorem digitsValue_toDigits (n : Nat) : digitsValue (Nat.toDigits 10 n) = n := by
  rw [digitsValue_eq_ofDigitChars fun _ => isDigit_of_mem_toDigits, Nat.ofDigitChars_ten_toDigits]

/-- All digits at the front are taken, up to another character or to the end. -/
theorem splitDigits_eq {cs digits after : List Char}
    (split : Decimal.splitDigits cs = (digits, after)) :
    cs = digits ++ after ∧ (∀ d ∈ digits, isDigit d) ∧ ∀ c ∈ after.head?, ¬ isDigit c := by
  rw [Decimal.splitDigits, List.span_eq_takeWhile_dropWhile, Prod.mk.injEq] at split
  rcases split with ⟨rfl, rfl⟩
  refine ⟨List.takeWhile_append_dropWhile.symm, fun d taken => List.mem_takeWhile_imp taken, ?_⟩
  intro c first digit
  have stopped := List.head?_dropWhile_not isDigit cs
  rw [Option.mem_def.mp first] at stopped
  simp only [digit, Bool.true_eq_false] at stopped

theorem splitDigits_append_of_ends {digits rest : List Char} (all : ∀ d ∈ digits, isDigit d)
    (ends : ∀ c ∈ rest.head?, ¬ isDigit c) :
    Decimal.splitDigits (digits ++ rest) = (digits, rest) := by
  rw [Decimal.splitDigits, List.span_eq_takeWhile_dropWhile, List.takeWhile_append_of_pos all,
    List.dropWhile_append_of_pos all]
  cases rest with
  | nil => rw [List.takeWhile_nil, List.dropWhile_nil, List.append_nil]
  | cons c rest =>
    have stop := ends c rfl
    rw [List.takeWhile_cons_of_neg stop, List.dropWhile_cons_of_neg stop, List.append_nil]

/-- Digits are taken up to the first character that is none. -/
theorem splitDigits_append {digits : List Char} (all : ∀ c ∈ digits, isDigit c) {c : Char}
    (stop : ¬ isDigit c) (rest : List Char) :
    Decimal.splitDigits (digits ++ c :: rest) = (digits, c :: rest) :=
  splitDigits_append_of_ends all fun d first => by
    rw [List.head?_cons, Option.mem_some] at first
    rwa [← first]

end TypedFilters.Text
