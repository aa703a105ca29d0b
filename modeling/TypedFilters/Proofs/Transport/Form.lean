import TypedFilters.Proofs.Text.Octets
import TypedFilters.Proofs.Text.Trimming
import TypedFilters.Transport

/-!
# Form encoding is read back

A character may be written as it is, unless it is `%` or `+`, or as the octets of its UTF-8 form, each
after a `%` in two hexadecimal digits of either case; a space may also be written as `+`. Every text
that is written in this way, with a choice made anew for each character, is read back
(`Spells.text`).
-/

namespace TypedFilters.Form

open Text

/-- Octets, each written as `%` and two hexadecimal digits. -/
inductive Escapes : List UInt8 → List Char → Prop
  | nil : Escapes [] []
  | cons {b : UInt8} {bs : List UInt8} {high low : Char} {back : List Char}
      (upper : hexDigit? high = some (b.toNat / 16)) (lower : hexDigit? low = some (b.toNat % 16))
      (rest : Escapes bs back) : Escapes (b :: bs) ('%' :: high :: low :: back)

/-- The ways to write one character. -/
inductive Piece : Char → List Char → Prop
  | literal {c : Char} (percent : c ≠ '%') (plus : c ≠ '+') : Piece c [c]
  | escaped {c : Char} {piece : List Char} (octets : Escapes (String.utf8EncodeChar c) piece) :
      Piece c piece
  | plus : Piece ' ' ['+']

/-- Characters, each written in one of its ways. -/
inductive Pieces : List Char → List Char → Prop
  | nil : Pieces [] []
  | cons {c : Char} {cs front back : List Char} (piece : Piece c front) (rest : Pieces cs back) :
      Pieces (c :: cs) (front ++ back)

/-- One of the form encodings of a text. -/
def Spells (s raw : String) : Prop :=
  Pieces s.toList raw.toList

/-! ## Reading pieces -/

section Reading

variable {rest : List UInt8}

theorem decode_cons_of_ne {b : UInt8} (percent : b ≠ 37) (plus : b ≠ 43) :
    decode (b :: rest) = b :: decode rest := by
  rw [decode, if_neg plus]
  intro _ _ _ eq
  exact absurd eq percent

theorem decode_plus : decode (43 :: rest) = 32 :: decode rest := by
  rw [decode, if_pos rfl]
  intro _ _ _ eq
  exact absurd eq (by decide)

theorem decode_append {bs : List UInt8} (percent : ∀ b ∈ bs, b ≠ 37) (plus : ∀ b ∈ bs, b ≠ 43) :
    decode (bs ++ rest) = bs ++ decode rest := by
  induction bs with
  | nil => rfl
  | cons b bs ih =>
    rw [List.forall_mem_cons] at percent plus
    rw [List.cons_append, decode_cons_of_ne percent.1 plus.1, ih percent.2 plus.2]
    rfl

theorem ascii_of_hexDigit? {c : Char} {v : Nat} (digit : hexDigit? c = some v) : c.toNat < 128 := by
  unfold hexDigit? at digit
  split at digit
  · next decimal => exact Nat.lt_of_le_of_lt (show c.toNat ≤ '9'.toNat from decimal.2) (by decide)
  split at digit
  · next small => exact Nat.lt_of_le_of_lt (show c.toNat ≤ 'f'.toNat from small.2) (by decide)
  split at digit
  · next capital => exact Nat.lt_of_le_of_lt (show c.toNat ≤ 'F'.toNat from capital.2) (by decide)
  · cases digit

theorem toNat_octet {c : Char} (ascii : c.toNat < 128) : (octet c).toNat = c.toNat :=
  UInt8.toNat_ofNat_of_lt' (show c.toNat < 256 by omega)

theorem hexValue?_octet {c : Char} {v : Nat} (digit : hexDigit? c = some v) :
    hexValue? (octet c) = some v := by
  have ascii := ascii_of_hexDigit? digit
  have toNat := toNat_octet ascii
  have small : octet c < 128 := UInt8.lt_iff_toNat_lt.mpr (toNat ▸ ascii)
  rw [hexValue?, if_pos small, toNat, Char.ofNat_toNat, digit]

/-- Two hexadecimal digits after a `%` are read as the octet that they write. -/
theorem decode_escaped {b : UInt8} {high low : Char} (upper : hexDigit? high = some (b.toNat / 16))
    (lower : hexDigit? low = some (b.toNat % 16)) :
    decode (37 :: octet high :: octet low :: rest) = b :: decode rest := by
  have escaped : escaped? (octet high) (octet low) = some b := by
    simp only [escaped?, hexValue?_octet upper, hexValue?_octet lower, bind, Option.bind]
    rw [Nat.div_add_mod', UInt8.ofNat_toNat]
  rw [decode, escaped]

/-- The octet of an ASCII character is found in no other character. -/
theorem ne_octet_of_mem_utf8EncodeChar {c d : Char} {b : UInt8} (ascii : d.toNat < 128) (ne : c ≠ d)
    (mem : b ∈ String.utf8EncodeChar c) : b ≠ octet d := by
  rintro rfl
  by_cases single : c.toNat < 128
  · rw [utf8EncodeChar_of_ascii single, List.mem_singleton] at mem
    have same := congrArg UInt8.toNat mem
    rw [toNat_octet ascii, toNat_octet single] at same
    exact ne (Char.toNat_inj.mp same.symm)
  · have := le_of_mem_utf8EncodeChar (by omega) mem
    rw [toNat_octet ascii] at this
    omega

/-- The octets of a literal character are read as they are. -/
theorem decode_literal {c : Char} (percent : c ≠ '%') (plus : c ≠ '+') :
    decode (String.utf8EncodeChar c ++ rest) = String.utf8EncodeChar c ++ decode rest :=
  decode_append (fun _ => ne_octet_of_mem_utf8EncodeChar (show '%'.toNat < 128 by decide) percent)
    (fun _ => ne_octet_of_mem_utf8EncodeChar (show '+'.toNat < 128 by decide) plus)

theorem decode_escapes {bs : List UInt8} {piece : List Char} (escapes : Escapes bs piece) :
    decode (piece.flatMap String.utf8EncodeChar ++ rest) = bs ++ decode rest := by
  induction escapes with
  | nil => rfl
  | cons upper lower _ ih =>
    rw [List.flatMap_cons, List.flatMap_cons, List.flatMap_cons,
      utf8EncodeChar_of_ascii (show '%'.toNat < 128 by decide),
      utf8EncodeChar_of_ascii (ascii_of_hexDigit? upper),
      utf8EncodeChar_of_ascii (ascii_of_hexDigit? lower)]
    exact (decode_escaped upper lower).trans (congrArg _ ih)

theorem decode_piece {c : Char} {piece : List Char} (written : Piece c piece) :
    decode (piece.flatMap String.utf8EncodeChar ++ rest) =
      String.utf8EncodeChar c ++ decode rest := by
  cases written with
  | literal percent plus =>
    rw [List.flatMap_singleton]
    exact decode_literal percent plus
  | escaped escapes => exact decode_escapes escapes
  | plus => exact decode_plus

end Reading

section Texts

variable {s raw : String}

theorem decode_pieces {cs written : List Char} (pieces : Pieces cs written) :
    decode (written.flatMap String.utf8EncodeChar) = cs.flatMap String.utf8EncodeChar := by
  induction pieces with
  | nil => rfl
  | cons piece _ ih => rw [List.flatMap_append, decode_piece piece, ih, List.flatMap_cons]

/-- A form encoding of a text is decoded to the text. -/
theorem Spells.text (spells : Spells s raw) : Encoding.url.text raw = .ok s := by
  rw [Encoding.text, octets_eq_flatMap raw, decode_pieces spells, ← octets_eq_flatMap s, Encoding.utf8,
    ofOctets?_octets]

theorem exists_not_isBlankChar_of_piece {c : Char} {piece : List Char} (written : Piece c piece)
    (nonblank : ¬ isBlankChar c) : ∃ c' ∈ piece, ¬ isBlankChar c' := by
  cases written with
  | literal => exact ⟨c, List.mem_cons_self, nonblank⟩
  | escaped escapes =>
    -- A character has at least one octet, so there is a `%`.
    obtain ⟨b, bs, some⟩ := List.exists_cons_of_ne_nil (@String.utf8EncodeChar_ne_nil c)
    rw [some] at escapes
    cases escapes
    exact ⟨'%', List.mem_cons_self, by decide⟩
  | plus => exact absurd (by decide) nonblank

theorem exists_not_isBlankChar_of_pieces {cs written : List Char} (pieces : Pieces cs written)
    (nonblank : ∃ c ∈ cs, ¬ isBlankChar c) : ∃ c ∈ written, ¬ isBlankChar c := by
  induction pieces with
  | nil => exact nonblank
  | @cons c _ _ _ piece _ ih =>
    by_cases blank : isBlankChar c
    · rcases nonblank with ⟨d, inCons, other⟩
      rcases List.mem_cons.mp inCons with rfl | inRest
      · exact absurd blank other
      · obtain ⟨c', inBack, visible⟩ := ih ⟨d, inRest, other⟩
        exact ⟨c', List.mem_append_right _ inBack, visible⟩
    · obtain ⟨c', inFront, visible⟩ := exists_not_isBlankChar_of_piece piece blank
      exact ⟨c', List.mem_append_left _ inFront, visible⟩

theorem Spells.not_isBlank (spells : Spells s raw) (nonblank : ¬ isBlank s) : ¬ isBlank raw := by
  simp only [isBlank, List.all_eq_true, not_forall, exists_prop] at nonblank ⊢
  exact exists_not_isBlankChar_of_pieces spells nonblank

theorem Spells.eq_empty (spells : Spells s raw) (empty : s = "") : raw = "" := by
  rw [Spells, empty, String.toList_empty] at spells
  rw [← String.toList_eq_nil_iff]
  generalize raw.toList = written at spells
  cases spells
  rfl

/-- Unless a text consists of blanks only, its form encodings are blank exactly if it is empty. -/
theorem Spells.isBlank_iff (spells : Spells s raw) (visible : s = "" ∨ ¬ isBlank s) :
    isBlank raw ↔ s = "" := by
  constructor
  · intro blank
    exact visible.resolve_right fun nonblank => spells.not_isBlank nonblank blank
  · intro empty
    rw [spells.eq_empty empty]
    rfl

end Texts

end TypedFilters.Form
