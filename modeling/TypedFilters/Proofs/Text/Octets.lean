import TypedFilters.Text.Octets

/-!
# The octets of characters

The octets of a text are those of its characters in order (`octets_ofList`). An ASCII character is one
octet (`utf8EncodeChar_of_ascii`), and every octet of any other character is at least 128
(`le_of_mem_utf8EncodeChar`). A text is read from exactly its own octets (`ofOctets?_eq_some_iff`).
-/

namespace TypedFilters.Text

theorem octets_ofList (cs : List Char) :
    octets (String.ofList cs) = cs.flatMap String.utf8EncodeChar := by
  simp [octets, String.toUTF8, List.utf8Encode]

theorem octets_eq_flatMap (s : String) : octets s = s.toList.flatMap String.utf8EncodeChar := by
  rw [← octets_ofList, String.ofList_toList]

/-- Octets are read as the one text that has them. -/
theorem ofOctets?_eq_some_iff {bs : List UInt8} {s : String} :
    ofOctets? bs = some s ↔ octets s = bs := by
  constructor
  · intro read
    unfold ofOctets? String.fromUTF8? at read
    split at read
    · rw [← Option.some.inj read]
      rfl
    · cases read
  · intro written
    rw [← written, ofOctets?_octets]

theorem octets_eq_nil_iff {s : String} : octets s = [] ↔ s = "" := by
  constructor
  · intro none
    have read := ofOctets?_octets s
    rw [none, show ([] : List UInt8) = octets "" from rfl, ofOctets?_octets] at read
    exact (Option.some.inj read).symm
  · intro empty
    rw [empty]
    rfl

theorem utf8EncodeChar_of_ascii {c : Char} (ascii : c.toNat < 128) :
    String.utf8EncodeChar c = [octet c] := by
  have small : c.val.toNat ≤ 127 := Nat.le_of_lt_succ ascii
  rw [String.utf8EncodeChar, if_pos small]
  rfl

theorem le_of_mem_utf8EncodeChar {c : Char} (other : 128 ≤ c.toNat) {b : UInt8}
    (octet : b ∈ String.utf8EncodeChar c) : 128 ≤ b.toNat := by
  have big : ¬ c.val.toNat ≤ 127 := Nat.not_le_of_lt other
  rw [String.utf8EncodeChar, if_neg big] at octet
  -- Each octet is a marker of at least 128 and less than 64 in its low bits.
  have marked : ∀ low marker : Nat, 128 ≤ marker → low + marker < 256 →
      128 ≤ (UInt8.ofNat (low + marker)).toNat := by
    intro low marker high small
    rw [UInt8.toNat_ofNat_of_lt' small]
    omega
  split at octet
  · simp only [List.mem_cons, List.not_mem_nil, or_false] at octet
    rcases octet with rfl | rfl
    · exact marked _ _ (by decide) (by omega)
    · exact marked _ _ (by decide) (by omega)
  split at octet
  · simp only [List.mem_cons, List.not_mem_nil, or_false] at octet
    rcases octet with rfl | rfl | rfl
    · exact marked _ _ (by decide) (by omega)
    · exact marked _ _ (by decide) (by omega)
    · exact marked _ _ (by decide) (by omega)
  · simp only [List.mem_cons, List.not_mem_nil, or_false] at octet
    rcases octet with rfl | rfl | rfl | rfl
    · exact marked _ _ (by decide) (by omega)
    · exact marked _ _ (by decide) (by omega)
    · exact marked _ _ (by decide) (by omega)
    · exact marked _ _ (by decide) (by omega)

theorem toNat_ofNat_of_ascii {n : Nat} (ascii : n < 128) : (Char.ofNat n).toNat = n := by
  have valid : n.isValidChar := .inl (by omega)
  rw [Char.ofNat, dif_pos valid]
  rfl

theorem octet_ofNat {b : UInt8} (ascii : b.toNat < 128) : octet (Char.ofNat b.toNat) = b := by
  rw [octet, toNat_ofNat_of_ascii ascii, UInt8.ofNat_toNat]

/-- A text of the characters of ASCII octets has these octets. -/
theorem octets_of_ascii {bs : List UInt8} (ascii : ∀ b ∈ bs, b.toNat < 128) :
    octets (String.ofList (bs.map fun b => Char.ofNat b.toNat)) = bs := by
  rw [octets_ofList]
  induction bs with
  | nil => rfl
  | cons b bs ih =>
    have small := ascii b List.mem_cons_self
    have single : String.utf8EncodeChar (Char.ofNat b.toNat) = [b] := by
      rw [utf8EncodeChar_of_ascii (by rwa [toNat_ofNat_of_ascii small]), octet_ofNat small]
    rw [List.map_cons, List.flatMap_cons, single,
      ih fun b' rest => ascii b' (List.mem_cons_of_mem b rest)]
    rfl

end TypedFilters.Text
