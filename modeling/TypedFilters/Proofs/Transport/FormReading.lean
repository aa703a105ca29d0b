import TypedFilters.Proofs.Transport.Form
import TypedFilters.Proofs.Transport.Utf8

/-!
# Form encoding is read from left to right

The octets of a form-encoded text are read one after the other (`Form.Reads`): a plus is a space, a
percent sign with two hexadecimal digits behind it is the octet that they write, and any other percent
sign stands for itself, and what follows it is read anew. Every text has exactly one reading, which the
decoder answers (`reads_iff`). Replacing each plus by a space first gives the same (`Reads.spaced`), and a
percent sign is never taken for a part of something in front of it (`Reads.append_percent`). The main
statement is `decoded_from_left_to_right`.
-/

namespace TypedFilters.Form

open Text
open Encoding (utf8_eq_ok_iff utf8_eq_error_iff eq_notUtf8_of_utf8)

/-! ## The reading -/

/-- The octet of a hexadecimal digit of either case, with its value. -/
inductive HexDigit (b : UInt8) : Nat → Prop
  | decimal (ge : 48 ≤ b.toNat) (le : b.toNat ≤ 57) : HexDigit b (b.toNat - 48)
  | small (ge : 97 ≤ b.toNat) (le : b.toNat ≤ 102) : HexDigit b (b.toNat - 87)
  | capital (ge : 65 ≤ b.toNat) (le : b.toNat ≤ 70) : HexDigit b (b.toNat - 55)

/-- Two hexadecimal digits in front of other octets write an octet. -/
inductive StartsWithOctet (b : UInt8) : List UInt8 → List UInt8 → Prop
  | digits {high low : UInt8} {rest : List UInt8} (upper : HexDigit high (b.toNat / 16))
      (lower : HexDigit low (b.toNat % 16)) : StartsWithOctet b (high :: low :: rest) rest

/-- Octets of a text and the octets that they stand for, from left to right. -/
inductive Reads : List UInt8 → List UInt8 → Prop
  | nil : Reads [] []
  | plus {rest bs : List UInt8} (later : Reads rest bs) : Reads (43 :: rest) (32 :: bs)
  | escape {b : UInt8} {digits rest bs : List UInt8} (octet : StartsWithOctet b digits rest)
      (later : Reads rest bs) : Reads (37 :: digits) (b :: bs)
  | percent {rest bs : List UInt8} (stray : ∀ b behind, ¬ StartsWithOctet b rest behind)
      (later : Reads rest bs) : Reads (37 :: rest) (37 :: bs)
  | other {b : UInt8} {rest bs : List UInt8} (not_percent : b ≠ 37) (not_plus : b ≠ 43)
      (later : Reads rest bs) : Reads (b :: rest) (b :: bs)

/-! ## The decoder answers the reading -/

section Decoding

variable {b high low : UInt8} {raw rest bs : List UInt8}

theorem HexDigit.value_lt {n : Nat} (digit : HexDigit b n) : n < 16 := by
  cases digit <;> omega

theorem hexValue?_eq_some_iff {n : Nat} : hexValue? b = some n ↔ HexDigit b n := by
  have toNat : b < 128 → (Char.ofNat b.toNat).toNat = b.toNat :=
    fun ascii => toNat_ofNat_of_ascii (UInt8.lt_iff_toNat_lt.mp ascii)
  have bounds : ∀ low high c : Char, low ≤ c ∧ c ≤ high ↔ low.toNat ≤ c.toNat ∧ c.toNat ≤ high.toNat :=
    fun _ _ _ => Iff.rfl
  constructor
  · intro value
    unfold hexValue? at value
    split at value
    · next ascii =>
      simp only [hexDigit?, bounds, toNat ascii] at value
      split at value
      · next decimal =>
        cases value
        exact .decimal decimal.1 decimal.2
      split at value
      · next small =>
        cases value
        exact .small small.1 small.2
      split at value
      · next capital =>
        cases value
        exact .capital capital.1 capital.2
      · cases value
    · cases value
  · intro digit
    have ascii : b < 128 := UInt8.lt_iff_toNat_lt.mpr (by cases digit <;> simp <;> omega)
    simp only [hexValue?, if_pos ascii, hexDigit?, bounds, toNat ascii, Char.reduceToNat]
    cases digit with
    | decimal ge le => rw [if_pos ⟨ge, le⟩]
    | small ge le => rw [if_neg (by omega), if_pos ⟨ge, le⟩]
    | capital ge le => rw [if_neg (by omega), if_neg (by omega), if_pos ⟨ge, le⟩]

theorem escaped?_eq_some_iff :
    escaped? high low = some b ↔ HexDigit high (b.toNat / 16) ∧ HexDigit low (b.toNat % 16) := by
  simp only [escaped?, Option.bind_eq_bind, Option.bind_eq_some_iff, hexValue?_eq_some_iff,
    Option.some.injEq]
  constructor
  · rintro ⟨h, upper, l, lower, rfl⟩
    have := upper.value_lt
    have := lower.value_lt
    have toNat : (UInt8.ofNat (h * 16 + l)).toNat = h * 16 + l := UInt8.toNat_ofNat_of_lt' (show _ < 256 by omega)
    rw [toNat, show (h * 16 + l) / 16 = h by omega, show (h * 16 + l) % 16 = l by omega]
    exact ⟨upper, lower⟩
  · rintro ⟨upper, lower⟩
    exact ⟨_, upper, _, lower, by rw [Nat.div_add_mod', UInt8.ofNat_toNat]⟩

theorem startsWithOctet_iff :
    StartsWithOctet b raw rest ↔ ∃ high low, raw = high :: low :: rest ∧ escaped? high low = some b := by
  simp only [escaped?_eq_some_iff]
  constructor
  · rintro ⟨upper, lower⟩
    exact ⟨_, _, rfl, upper, lower⟩
  · rintro ⟨high, low, rfl, upper, lower⟩
    exact .digits upper lower

theorem decode_of_startsWithOctet (octet : StartsWithOctet b raw rest) :
    decode (37 :: raw) = b :: decode rest := by
  obtain ⟨high, low, rfl, escaped⟩ := startsWithOctet_iff.mp octet
  rw [decode, escaped]

theorem decode_of_not_startsWithOctet (stray : ∀ b behind, ¬ StartsWithOctet b raw behind) :
    decode (37 :: raw) = 37 :: decode raw := by
  rcases raw with _ | ⟨high, _ | ⟨low, rest⟩⟩
  · rfl
  · rfl
  · cases escaped : escaped? high low with
    | some b => exact absurd (startsWithOctet_iff.mpr ⟨high, low, rfl, escaped⟩) (stray b rest)
    | none => rw [decode, escaped]

theorem Reads.eq_decode (reads : Reads raw bs) : bs = decode raw := by
  induction reads with
  | nil => rfl
  | plus _ ih => rw [ih, decode_plus]
  | escape octet _ ih => rw [ih, decode_of_startsWithOctet octet]
  | percent stray _ ih => rw [ih, decode_of_not_startsWithOctet stray]
  | other not_percent not_plus _ ih => rw [ih, decode_cons_of_ne not_percent not_plus]

/-- Every text can be read. -/
theorem reads_decode (raw : List UInt8) : Reads raw (decode raw) := by
  fun_induction decode raw with
  | case1 => exact .nil
  | case2 high low rest b escaped ih => exact .escape (startsWithOctet_iff.mpr ⟨_, _, rfl, escaped⟩) ih
  | case3 high low rest escaped ih =>
    refine .percent (fun b behind octet => ?_) ih
    obtain ⟨_, _, same, written⟩ := startsWithOctet_iff.mp octet
    cases same
    rw [escaped] at written
    cases written
  | case4 b rest short ih =>
    by_cases plus : b = 43
    · rw [if_pos plus, plus]
      exact .plus ih
    rw [if_neg plus]
    by_cases percent : b = 37
    · rw [percent]
      refine .percent (fun b behind octet => ?_) ih
      obtain ⟨high, low, same, _⟩ := startsWithOctet_iff.mp octet
      exact short high low behind percent same
    · exact .other percent plus ih

/-- The reading of a text is what the decoder answers. -/
theorem reads_iff : Reads raw bs ↔ decode raw = bs := by
  constructor
  · exact fun reads => reads.eq_decode.symm
  · rintro rfl
    exact reads_decode raw

end Decoding

/-! ## Laws of the reading -/

section Laws

variable {b : UInt8} {raw rest bs front back cs : List UInt8}

/-- A plus is written as a space. -/
def spaced (b : UInt8) : UInt8 :=
  if b = 43 then 32 else b

theorem spaced_of_hexDigit {n : Nat} (digit : HexDigit b n) : spaced b = b := by
  have other : b ≠ 43 := by
    rintro rfl
    cases digit <;> contradiction
  exact if_neg other

theorem hexDigit_of_spaced {n : Nat} (digit : HexDigit (spaced b) n) : HexDigit b n := by
  unfold spaced at digit
  split at digit
  · cases digit <;> contradiction
  · exact digit

/-- Each plus may be replaced by a space before the escapes are read. -/
theorem Reads.spaced (reads : Reads raw bs) : Reads (raw.map spaced) bs := by
  induction reads with
  | nil => exact .nil
  | plus _ ih => exact .other (by decide) (by decide) ih
  | escape octet _ ih =>
    rcases octet with ⟨upper, lower⟩
    rw [List.map_cons, List.map_cons, List.map_cons, spaced_of_hexDigit upper, spaced_of_hexDigit lower]
    exact .escape (.digits upper lower) ih
  | @percent rest _ stray _ ih =>
    refine .percent (fun b behind octet => ?_) ih
    rcases rest with _ | ⟨high, _ | ⟨low, rest⟩⟩
    · cases octet
    · cases octet
    · rcases octet with ⟨upper, lower⟩
      exact stray b rest (.digits (hexDigit_of_spaced upper) (hexDigit_of_spaced lower))
  | @other b _ _ not_percent not_plus _ ih =>
    rw [List.map_cons, Form.spaced, if_neg not_plus]
    exact .other not_percent not_plus ih

/-- A percent sign is no hexadecimal digit, so an escape is not continued in it. -/
theorem startsWithOctet_append_percent {behind : List UInt8}
    (octet : StartsWithOctet b (front ++ 37 :: rest) behind) :
    ∃ behind', StartsWithOctet b front behind' := by
  have percent : ∀ {n}, ¬ HexDigit 37 n := fun digit => by cases digit <;> contradiction
  rcases front with _ | ⟨high, _ | ⟨low, front⟩⟩
  · rcases octet with ⟨upper, _⟩
    exact absurd upper percent
  · rcases octet with ⟨_, lower⟩
    exact absurd lower percent
  · rcases octet with ⟨upper, lower⟩
    exact ⟨front, .digits upper lower⟩

/-- Wherever a percent sign stands, it is read together with what follows it only. -/
theorem Reads.append_percent (left : Reads front bs) (right : Reads (37 :: rest) cs) :
    Reads (front ++ 37 :: rest) (bs ++ cs) := by
  induction left with
  | nil => exact right
  | plus _ ih => exact .plus ih
  | escape octet _ ih =>
    rcases octet with ⟨upper, lower⟩
    exact .escape (.digits upper lower) ih
  | percent stray _ ih =>
    refine .percent (fun b behind octet => ?_) ih
    obtain ⟨behind', octet⟩ := startsWithOctet_append_percent octet
    exact stray b behind' octet
  | other not_percent not_plus _ ih => exact .other not_percent not_plus ih

/-- A plus that is written as an escape is read as a plus, wherever it stands. -/
theorem Reads.append_escaped_plus {low : UInt8} (lower : low = 66 ∨ low = 98) (left : Reads front bs)
    (right : Reads back cs) : Reads (front ++ 37 :: 50 :: low :: back) (bs ++ 43 :: cs) := by
  have two : HexDigit 50 2 := .decimal (by decide) (by decide)
  have eleven : HexDigit low 11 := by
    rcases lower with rfl | rfl
    · exact .capital (by decide) (by decide)
    · exact .small (by decide) (by decide)
  exact left.append_percent (.escape (.digits two eleven) right)

end Laws

example : decode (octets "%%41%4+%2B%") = octets "%A%4 +%" := by decide +kernel

/-! ## Texts -/

section Texts

variable {raw : String}

/-- The octet of a plus is found in no other character, so it does not matter whether each plus is replaced
in the text or in its octets. -/
theorem octets_map_spaced (raw : String) :
    octets (raw.map fun c => if c = '+' then ' ' else c) = (octets raw).map spaced := by
  rw [octets_eq_flatMap, octets_eq_flatMap, String.toList_map, List.flatMap_map, List.map_flatMap]
  refine List.flatMap_congr fun c _ => ?_
  by_cases plus : c = '+'
  · rw [plus]
    rfl
  · rw [if_neg plus]
    have kept : ∀ b ∈ String.utf8EncodeChar c, spaced b = id b := fun b mem =>
      if_neg (ne_octet_of_mem_utf8EncodeChar (show '+'.toNat < 128 by decide) plus mem)
    rw [List.map_congr_left kept, List.map_id]

theorem text_url_eq_ok_iff {s : String} :
    Encoding.url.text raw = .ok s ↔ Reads (octets raw) (octets s) := by
  rw [Encoding.text, utf8_eq_ok_iff, reads_iff, eq_comm]

theorem text_url_eq_error_iff {fault : DecodeFault} :
    Encoding.url.text raw = .error fault ↔
      fault = .notUtf8 ∧ ∃ bs, Reads (octets raw) bs ∧ ∀ s, octets s ≠ bs := by
  simp only [reads_iff, exists_eq_left', Encoding.text]
  constructor
  · intro refused
    obtain rfl := eq_notUtf8_of_utf8 refused
    exact ⟨rfl, utf8_eq_error_iff.mp refused⟩
  · rintro ⟨rfl, none⟩
    exact utf8_eq_error_iff.mpr none

end Texts

/-- Every form encoding of a text is decoded to it. Any text is decoded to the text that has the octets of
its only reading, and refused exactly if no text has them. Each plus may be replaced by a space before, but
a plus that is written as an escape is one in the reading, wherever it stands. -/
theorem decoded_from_left_to_right (raw : String) :
    (∀ s, Spells s raw → Encoding.url.text raw = .ok s) ∧
    (∃! bs, Reads (octets raw) bs) ∧
    (∀ s, Encoding.url.text raw = .ok s ↔ Reads (octets raw) (octets s)) ∧
    (∀ fault, Encoding.url.text raw = .error fault ↔
      fault = .notUtf8 ∧ ∃ bs, Reads (octets raw) bs ∧ ∀ s, octets s ≠ bs) ∧
    Encoding.url.text (raw.map fun c => if c = '+' then ' ' else c) = Encoding.url.text raw ∧
    ∀ front back bs cs low, low = 66 ∨ low = 98 → Reads front bs → Reads back cs →
      Reads (front ++ 37 :: 50 :: low :: back) (bs ++ 43 :: cs) := by
  refine ⟨fun s => Spells.text, ?_, fun s => text_url_eq_ok_iff, fun fault => text_url_eq_error_iff, ?_,
    fun _ _ _ _ _ lower => Reads.append_escaped_plus lower⟩
  · exact ⟨_, reads_decode _, fun _ => Reads.eq_decode⟩
  · rw [Encoding.text, Encoding.text, octets_map_spaced, reads_iff.mp (reads_decode (octets raw)).spaced]

/-- A text of letters, a plus and a space in mixed spellings, a text with stray percent signs, and octets
that no text has. -/
theorem decoded_from_left_to_right_of_stray_percents :
    (Spells " +é" "+%2b%C3%a9" ∧ Encoding.url.text "+%2b%C3%a9" = .ok " +é") ∧
      Reads (octets "%%41%4+%") (octets "%A%4 %") ∧
      (∃ bs, Reads (octets "%FF%FE") bs ∧ ∀ s, octets s ≠ bs) ∧
      Encoding.url.text ("%%41%4+%".map fun c => if c = '+' then ' ' else c) =
        Encoding.url.text "%%41%4+%" ∧
      (Reads [37, 52] [37, 52] ∧ Reads [43] [32] ∧
        Reads [37, 52, 37, 50, 66, 43] [37, 52, 43, 32]) := by
  have escapedPlus : Piece '+' ['%', '2', 'b'] :=
    .escaped (@Escapes.cons 43 [] '2' 'b' [] (by decide) (by decide) .nil)
  have accented : Piece 'é' ['%', 'C', '3', '%', 'a', '9'] :=
    .escaped (@Escapes.cons 195 [169] 'C' '3' _ (by decide) (by decide)
      (@Escapes.cons 169 [] 'a' '9' _ (by decide) (by decide) .nil))
  have spells : Spells " +é" "+%2b%C3%a9" := .cons .plus (.cons escapedPlus (.cons accented .nil))
  have stray : Encoding.url.text "%%41%4+%" = .ok "%A%4 %" := by decide +kernel
  have refused : Encoding.url.text "%FF%FE" = .error .notUtf8 := by decide +kernel
  have front : Reads [37, 52] [37, 52] := reads_iff.mpr (by decide)
  have back : Reads [43] [32] := reads_iff.mpr (by decide)
  obtain ⟨_, _, ok, _, replaced, escaped⟩ := decoded_from_left_to_right "%%41%4+%"
  exact ⟨⟨spells, (decoded_from_left_to_right _).1 _ spells⟩, (ok _).mp stray,
    (((decoded_from_left_to_right "%FF%FE").2.2.2.1 _).mp refused).2, replaced,
    front, back, escaped _ _ _ _ 66 (.inl rfl) front back⟩

end TypedFilters.Form
