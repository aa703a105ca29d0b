import TypedFilters.Json.Printer
import TypedFilters.Json.Scan

/-!
# Strings are read back

Every character, as the printer escapes it inside a string, is read back as that character
(`stringBody_escapedChar`), and so is every string (`string_escaped`).
-/

namespace TypedFilters.Json

open Text

theorem hexDigit?_hexDigit {n : Nat} (small : n < 16) : hexDigit? (hexDigit n) = some n := by
  have all : ∀ n < 16, hexDigit? (hexDigit n) = some n := by decide
  exact all n small

/-- The code that the printer gives to a control character is read back. -/
theorem codeEscape_control {c : Char} (control : c.toNat < 32) (rest : List Char) :
    codeEscape ('0' :: '0' :: hexDigit (c.toNat / 16) :: hexDigit (c.toNat % 16) :: rest) =
      .ok (c, rest) := by
  have code : hexQuad ('0' :: '0' :: hexDigit (c.toNat / 16) :: hexDigit (c.toNat % 16) :: rest) =
      .ok (c.toNat, rest) := by
    have zero : hexDigit? '0' = some 0 := by decide
    have value : ((0 * 16 + 0) * 16 + c.toNat / 16) * 16 + c.toNat % 16 = c.toNat := by omega
    rw [hexQuad, zero, hexDigit?_hexDigit (show c.toNat / 16 < 16 by omega),
      hexDigit?_hexDigit (show c.toNat % 16 < 16 by omega)]
    dsimp only
    rw [value]
  have trailing : ¬ isTrailing c.toNat := by
    simp only [isTrailing, Bool.and_eq_true, decide_eq_true_eq]
    omega
  have leading : ¬ isLeading c.toNat := by
    simp only [isLeading, Bool.and_eq_true, decide_eq_true_eq]
    omega
  rw [codeEscape, code]
  dsimp only
  rw [if_neg trailing, if_neg leading, Char.ofNat_toNat]

section Body

variable {bound : Nat} {read rest : List Char}

theorem stringBody_backslash {d : Char} {after : List Char} (escaped : escape after = .ok (d, rest)) :
    stringBody (bound + 1) read ('\\' :: after) = stringBody bound (d :: read) rest := by
  rw [stringBody, if_neg (by decide), if_pos rfl, escaped]

theorem stringBody_escapedChar (c : Char) :
    stringBody (bound + 1) read (escapedChar c ++ rest) = stringBody bound (c :: read) rest := by
  unfold escapedChar
  split
  · exact stringBody_backslash rfl
  · exact stringBody_backslash rfl
  · exact stringBody_backslash rfl
  · exact stringBody_backslash rfl
  · exact stringBody_backslash rfl
  · exact stringBody_backslash rfl
  · exact stringBody_backslash rfl
  · next quote backslash _ _ _ _ _ =>
    split
    · next control => exact stringBody_backslash (codeEscape_control control rest)
    · next visible =>
      rw [List.singleton_append, stringBody, if_neg quote, if_neg backslash, if_neg visible]

/-- The escaped characters of a string up to the closing quote are read back. -/
theorem stringBody_escaped (cs : List Char) (enough : cs.length < bound) :
    stringBody bound read (cs.flatMap escapedChar ++ '"' :: rest) =
      .ok (String.ofList (read.reverse ++ cs), rest) := by
  induction cs generalizing bound read with
  | nil =>
    cases bound with
    | zero => cases enough
    | succ bound =>
      rw [List.flatMap_nil, List.nil_append, stringBody, if_pos rfl, List.append_nil]
  | cons c cs ih =>
    cases bound with
    | zero => cases enough
    | succ bound =>
      rw [List.flatMap_cons, List.append_assoc, stringBody_escapedChar,
        ih (Nat.lt_of_succ_lt_succ enough), List.reverse_cons, List.append_assoc,
        List.singleton_append]

end Body

theorem length_le_length_escaped (cs : List Char) : cs.length ≤ (cs.flatMap escapedChar).length := by
  induction cs with
  | nil => exact Nat.le_refl 0
  | cons c cs ih =>
    have some : 0 < (escapedChar c).length := by
      unfold escapedChar
      split <;> try exact Nat.zero_lt_succ _
      split <;> exact Nat.zero_lt_succ _
    rw [List.flatMap_cons, List.length_append, List.length_cons]
    omega

/-- A string is read back after its opening quote. -/
theorem string_escaped (s : String) (rest : List Char) :
    string (s.toList.flatMap escapedChar ++ '"' :: rest) = .ok (s, rest) := by
  have enough : s.toList.length < (s.toList.flatMap escapedChar ++ '"' :: rest).length + 1 := by
    have := length_le_length_escaped s.toList
    rw [List.length_append]
    omega
  rw [string, stringBody_escaped s.toList enough, List.reverse_nil, List.nil_append,
    String.ofList_toList]

end TypedFilters.Json
