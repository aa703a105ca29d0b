import TypedFilters.Proofs.FirstMatch
import TypedFilters.Proofs.Transport.Base64
import TypedFilters.Proofs.Transport.Utf8

/-!
# Base64 accepts exactly what is written in it

What is read in one of the four ways is what is written in that way (`decode?_eq_some_iff`): the
decoder takes no symbol of the other alphabet, no padding that is not called for and no unused bits that
are set. A text is therefore decoded exactly if it is one of the four encodings of the octets of a text
(`decoded_exactly_if_encoded`). It is refused as no UTF-8 if it is an encoding of octets that no text
has, and as no Base64 in every other case. The four ways never disagree, so they may be tried in any order
(`findSome?_ways`).
-/

namespace TypedFilters.Base64

open Text
open Encoding (utf8_eq_ok_iff utf8_eq_error_iff)

/-! ## What is read is written back -/

section Groups

variable {a : Alphabet} {s t u v : UInt8} {x : List UInt8}

/-- A symbol is the one that is written for its value, which has six bits. -/
theorem symbol_of_value? {b : UInt8} {n : Nat} (value : a.value? b = some n) :
    a.symbol n = b ∧ n < 64 := by
  have whole : ∀ {k : Nat}, k = b.toNat → UInt8.ofNat k = b := by
    intro k eq
    rw [eq, UInt8.ofNat_toNat]
  unfold Alphabet.value? at value
  simp only [UInt8.le_iff_toNat_le, UInt8.reduceToNat] at value
  unfold Alphabet.symbol
  split at value
  · next capital =>
    cases value
    rw [if_pos (by omega)]
    exact ⟨whole (by omega), by omega⟩
  split at value
  · next letter =>
    cases value
    rw [if_neg (by omega), if_pos (by omega)]
    exact ⟨whole (by omega), by omega⟩
  split at value
  · next digit =>
    cases value
    rw [if_neg (by omega), if_neg (by omega), if_pos (by omega)]
    exact ⟨whole (by omega), by omega⟩
  split at value
  · next is62 =>
    cases value
    exact ⟨is62.symm, by decide⟩
  split at value
  · next is63 =>
    cases value
    exact ⟨is63.symm, by decide⟩
  · cases value

/-- An octet that is put together from two numbers is taken apart into them. -/
theorem split_octet {i j n : Nat} (low : j < n) (fits : i * n + j < 256) :
    (UInt8.ofNat (i * n + j)).toNat / n = i ∧ (UInt8.ofNat (i * n + j)).toNat % n = j := by
  have pos : 0 < n := Nat.zero_lt_of_lt low
  rw [UInt8.toNat_ofNat_of_lt' fits, Nat.mul_comm]
  constructor
  · rw [Nat.mul_add_div pos, Nat.div_eq_of_lt low, Nat.add_zero]
  · rw [Nat.mul_add_mod, Nat.mod_eq_of_lt low]

/-- The octet of a group of two symbols gives the symbols back, as the unused bits are zero. -/
theorem exists_of_oneOctet? (read : oneOctet? a s t = some x) :
    ∃ p : UInt8, x = [p] ∧ a.symbol (p.toNat / 4) = s ∧ a.symbol (p.toNat % 4 * 16) = t := by
  obtain ⟨i, value_s, read⟩ := Option.bind_eq_some_iff.mp read
  obtain ⟨j, value_t, read⟩ := Option.bind_eq_some_iff.mp read
  obtain ⟨symbol_s, i_lt⟩ := symbol_of_value? value_s
  obtain ⟨symbol_t, j_lt⟩ := symbol_of_value? value_t
  split at read
  · next unused =>
    obtain ⟨high, low⟩ := @split_octet i (j / 16) 4 (by omega) (by omega)
    refine ⟨_, (Option.some.inj read).symm, ?_, ?_⟩
    · rw [high, symbol_s]
    · rw [low, show j / 16 * 16 = j by omega, symbol_t]
  · cases read

theorem exists_of_twoOctets? (read : twoOctets? a s t u = some x) :
    ∃ p q : UInt8, x = [p, q] ∧ a.symbol (p.toNat / 4) = s ∧
      a.symbol (p.toNat % 4 * 16 + q.toNat / 16) = t ∧ a.symbol (q.toNat % 16 * 4) = u := by
  obtain ⟨i, value_s, read⟩ := Option.bind_eq_some_iff.mp read
  obtain ⟨j, value_t, read⟩ := Option.bind_eq_some_iff.mp read
  obtain ⟨k, value_u, read⟩ := Option.bind_eq_some_iff.mp read
  obtain ⟨symbol_s, i_lt⟩ := symbol_of_value? value_s
  obtain ⟨symbol_t, j_lt⟩ := symbol_of_value? value_t
  obtain ⟨symbol_u, k_lt⟩ := symbol_of_value? value_u
  split at read
  · next unused =>
    obtain ⟨high_p, low_p⟩ := @split_octet i (j / 16) 4 (by omega) (by omega)
    obtain ⟨high_q, low_q⟩ := @split_octet (j % 16) (k / 4) 16 (by omega) (by omega)
    refine ⟨_, _, (Option.some.inj read).symm, ?_, ?_, ?_⟩
    · rw [high_p, symbol_s]
    · rw [low_p, high_q, Nat.div_add_mod', symbol_t]
    · rw [low_q, show k / 4 * 4 = k by omega, symbol_u]
  · cases read

theorem exists_of_threeOctets? (read : threeOctets? a s t u v = some x) :
    ∃ p q r : UInt8, x = [p, q, r] ∧ a.symbol (p.toNat / 4) = s ∧
      a.symbol (p.toNat % 4 * 16 + q.toNat / 16) = t ∧
      a.symbol (q.toNat % 16 * 4 + r.toNat / 64) = u ∧ a.symbol (r.toNat % 64) = v := by
  obtain ⟨i, value_s, read⟩ := Option.bind_eq_some_iff.mp read
  obtain ⟨j, value_t, read⟩ := Option.bind_eq_some_iff.mp read
  obtain ⟨k, value_u, read⟩ := Option.bind_eq_some_iff.mp read
  obtain ⟨l, value_v, read⟩ := Option.bind_eq_some_iff.mp read
  obtain ⟨symbol_s, i_lt⟩ := symbol_of_value? value_s
  obtain ⟨symbol_t, j_lt⟩ := symbol_of_value? value_t
  obtain ⟨symbol_u, k_lt⟩ := symbol_of_value? value_u
  obtain ⟨symbol_v, l_lt⟩ := symbol_of_value? value_v
  obtain ⟨high_p, low_p⟩ := @split_octet i (j / 16) 4 (by omega) (by omega)
  obtain ⟨high_q, low_q⟩ := @split_octet (j % 16) (k / 4) 16 (by omega) (by omega)
  obtain ⟨high_r, low_r⟩ := @split_octet (k % 4) l 64 (by omega) (by omega)
  refine ⟨_, _, _, (Option.some.inj read).symm, ?_, ?_, ?_, ?_⟩
  · rw [high_p, symbol_s]
  · rw [low_p, high_q, Nat.div_add_mod', symbol_t]
  · rw [low_q, high_r, Nat.div_add_mod', symbol_u]
  · rw [low_r, symbol_v]

end Groups

/-- What is read in one of the four ways is written back in that way. -/
theorem encode_of_decode? {a : Alphabet} {padded : Bool} :
    ∀ {bs x : List UInt8}, decode? a padded bs = some x → encode a padded x = bs
  | [], _, read => by
    cases read
    rfl
  | [_], _, read => nomatch read
  | [s, t], x, read => by
    rw [decode?] at read
    split at read
    · cases read
    · next unpadded =>
      obtain ⟨p, rfl, first, second⟩ := exists_of_oneOctet? read
      rw [encode, first, second, if_neg unpadded]
  | [s, t, u], x, read => by
    rw [decode?] at read
    split at read
    · cases read
    · next unpadded =>
      obtain ⟨p, q, rfl, first, second, third⟩ := exists_of_twoOctets? read
      rw [encode, first, second, third, if_neg unpadded]
  | s :: t :: u :: v :: rest, x, read => by
    rw [decode?] at read
    split at read
    · next last =>
      rcases last with ⟨withPadding, rfl, rfl⟩
      split at read
      · next one =>
        obtain ⟨p, rfl, first, second⟩ := exists_of_oneOctet? read
        rw [encode, first, second, if_pos withPadding, one]
      · obtain ⟨p, q, rfl, first, second, third⟩ := exists_of_twoOctets? read
        rw [encode, first, second, third, if_pos withPadding]
    · obtain ⟨front, group, read⟩ := Option.bind_eq_some_iff.mp read
      obtain ⟨back, others, read⟩ := Option.bind_eq_some_iff.mp read
      obtain ⟨p, q, r, rfl, first, second, third, fourth⟩ := exists_of_threeOctets? group
      rw [← Option.some.inj read, List.cons_append, List.cons_append, List.cons_append,
        List.nil_append, encode, first, second, third, fourth, encode_of_decode? others]

/-- A text is read in one of the four ways exactly if it is written in that way. -/
theorem decode?_eq_some_iff {a : Alphabet} {padded : Bool} {bs x : List UInt8} :
    decode? a padded bs = some x ↔ encode a padded x = bs := by
  constructor
  · exact encode_of_decode?
  · intro written
    rw [← written, decode?_encode]

/-! ## The four ways together -/

/-- The four ways in the order in which they are tried. -/
def ways : List (Alphabet × Bool) :=
  [(.standard, true), (.standard, false), (.urlSafe, true), (.urlSafe, false)]

theorem mem_ways (a : Alphabet) (padded : Bool) : (a, padded) ∈ ways := by
  cases a <;> cases padded <;> decide

/-- One of the four encodings of octets. -/
def Encodes (symbols octets : List UInt8) : Prop :=
  ∃ a padded, encode a padded octets = symbols

section Ways

variable {bs x : List UInt8}

theorem read_eq_ok_iff : read bs = .ok x ↔ Encodes bs x := by
  constructor
  · intro accepted
    have found : ∃ a padded, decode? a padded bs = some x := by
      unfold read at accepted
      dsimp only at accepted
      split at accepted
      · next octets found =>
        cases accepted
        simp only [Option.or_eq_some_iff] at found
        rcases found with (fits | ⟨_, fits⟩) | ⟨_, fits | ⟨_, fits⟩⟩
        · exact ⟨_, _, fits⟩
        · exact ⟨_, _, fits⟩
        · exact ⟨_, _, fits⟩
        · exact ⟨_, _, fits⟩
      · cases accepted
    rcases found with ⟨a, padded, fits⟩
    exact ⟨a, padded, encode_of_decode? fits⟩
  · intro written
    rcases written with ⟨a, padded, rfl⟩
    exact read_encode a padded x

/-- Whatever the order in which the four ways are tried, the first that fits reads the same. -/
theorem findSome?_ways {order : List (Alphabet × Bool)} (all : order.Perm ways) :
    order.findSome? (fun way => decode? way.1 way.2 bs) = (read bs).toOption := by
  have agree : Agree (fun way : Alphabet × Bool => decode? way.1 way.2 bs) ways :=
    fun _ _ _ _ _ _ one other => decode?_unique one other
  have fits : ∀ {x}, (∃ way ∈ ways, decode? way.1 way.2 bs = some x) ↔ Encodes bs x := by
    intro x
    constructor
    · rintro ⟨way, _, read⟩
      exact ⟨way.1, way.2, encode_of_decode? read⟩
    · rintro ⟨a, padded, written⟩
      exact ⟨(a, padded), mem_ways a padded, decode?_eq_some_iff.mpr written⟩
  apply Option.ext
  intro x
  rw [findSome?_eq_of_perm agree all, findSome?_eq_some_iff_of_agree agree, fits, ← read_eq_ok_iff]
  cases read bs <;> simp [Except.toOption]

end Ways

/-! ## Texts -/

section Texts

variable {raw s : String}

theorem text_of_encodes {bs : List UInt8} (written : Encodes (octets (trim raw)) bs) :
    Encoding.base64.text raw = Encoding.utf8 bs := by
  rw [Encoding.text, read_eq_ok_iff.mpr written]

theorem text_of_not_encodes (other : ∀ bs, ¬ Encodes (octets (trim raw)) bs) :
    ∃ fault, Encoding.base64.text raw = .error (.base64 fault) := by
  cases read : Base64.read (octets (trim raw)) with
  | ok bs => exact absurd (read_eq_ok_iff.mp read) (other bs)
  | error fault => exact ⟨fault.message, by rw [Encoding.text, read]⟩

/-- The octets of an encoding are determined by it. -/
theorem Encodes.unique {bs x y : List UInt8} (one : Encodes bs x) (other : Encodes bs y) : x = y := by
  have read := (read_eq_ok_iff.mpr one).symm.trans (read_eq_ok_iff.mpr other)
  exact Except.ok.inj read

end Texts

/-- A text is decoded to a text exactly if, trimmed, it is one of the four encodings of its octets; it is
refused as no UTF-8 exactly if it is an encoding of octets that no text has, and as no Base64 exactly if
it is no encoding of any octets. Two ways that fit the same symbols read the same octets, so that it does
not matter in which order the four are tried. -/
theorem decoded_exactly_if_encoded (raw : String) :
    (∀ s, Encoding.base64.text raw = .ok s ↔ Encodes (octets (trim raw)) (octets s)) ∧
    (Encoding.base64.text raw = .error .notUtf8 ↔
      ∃ bs, Encodes (octets (trim raw)) bs ∧ ∀ s, octets s ≠ bs) ∧
    ((∃ fault, Encoding.base64.text raw = .error (.base64 fault)) ↔
      ∀ bs, ¬ Encodes (octets (trim raw)) bs) ∧
    (∀ symbols a padded a' padded' x y, decode? a padded symbols = some x →
      decode? a' padded' symbols = some y → x = y) ∧
    ∀ symbols (order : List (Alphabet × Bool)), order.Perm ways →
      order.findSome? (fun way => decode? way.1 way.2 symbols) = (read symbols).toOption := by
  have unique : ∀ symbols a padded a' padded' x y, decode? a padded symbols = some x →
      decode? a' padded' symbols = some y → x = y :=
    fun _ _ _ _ _ _ _ one other => decode?_unique one other
  by_cases encoded : ∃ bs, Encodes (octets (trim raw)) bs
  · rcases encoded with ⟨bs, written⟩
    have same : ∀ {x}, Encodes (octets (trim raw)) x ↔ x = bs :=
      ⟨fun other => other.unique written, fun eq => eq ▸ written⟩
    have noFault : ∀ fault, Encoding.utf8 bs ≠ .error (.base64 fault) := by
      intro fault
      unfold Encoding.utf8
      split <;> exact nofun
    rw [text_of_encodes written]
    refine ⟨fun s => ?_, ?_, ?_, unique, fun _ _ => findSome?_ways⟩
    · rw [utf8_eq_ok_iff, same]
    · simp only [utf8_eq_error_iff, same, exists_eq_left]
    · exact iff_of_false (fun ⟨fault, eq⟩ => noFault fault eq) fun none => none bs written
  · rw [not_exists] at encoded
    obtain ⟨fault, refused⟩ := text_of_not_encodes encoded
    rw [refused]
    refine ⟨fun s => ?_, ?_, ?_, unique, fun _ _ => findSome?_ways⟩
    · exact iff_of_false nofun (encoded (octets s))
    · exact iff_of_false nofun fun ⟨bs, written, _⟩ => encoded bs written
    · exact iff_of_true ⟨fault, rfl⟩ encoded

/-- A letter with blanks around it, an octet that no text has, and a mixture of the alphabets. The letter
fits two ways, and is read from the last of them too. -/
theorem decoded_exactly_if_encoded_of_a_letter :
    Encodes (octets (trim " TQ\n")) (octets "M") ∧
      (∃ bs, Encodes (octets (trim "_w")) bs ∧ ∀ s, octets s ≠ bs) ∧
      (∀ bs, ¬ Encodes (octets (trim "-/")) bs) ∧
      (decode? .standard false [84, 81] = some [77] ∧ decode? .urlSafe false [84, 81] = some [77] ∧
        [77] = ([77] : List UInt8)) ∧
      ways.reverse.Perm ways ∧
        ways.reverse.findSome? (fun way => decode? way.1 way.2 [84, 81]) = (read [84, 81]).toOption := by
  have letter : Encoding.base64.text " TQ\n" = .ok "M" := by decide +kernel
  have octet : Encoding.base64.text "_w" = .error .notUtf8 := by decide +kernel
  have mixture : Encoding.base64.text "-/" = .error (.base64 (Fault.symbol 47 1).message) := by
    decide +kernel
  have standard : decode? .standard false [84, 81] = some [77] := by decide
  have urlSafe : decode? .urlSafe false [84, 81] = some [77] := by decide
  have reversed : ways.reverse.Perm ways := List.reverse_perm ways
  exact ⟨((decoded_exactly_if_encoded " TQ\n").1 "M").mp letter,
    (decoded_exactly_if_encoded "_w").2.1.mp octet,
    (decoded_exactly_if_encoded "-/").2.2.1.mp ⟨_, mixture⟩,
    ⟨standard, urlSafe,
      (decoded_exactly_if_encoded "").2.2.2.1 [84, 81] _ _ _ _ _ _ standard urlSafe⟩,
    reversed, (decoded_exactly_if_encoded "").2.2.2.2 [84, 81] ways.reverse reversed⟩

end TypedFilters.Base64
