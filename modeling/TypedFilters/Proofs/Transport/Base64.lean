import TypedFilters.Proofs.Text.Octets
import TypedFilters.Proofs.Text.Trimming
import TypedFilters.Transport

/-!
# Base64 is read back

What `encode` writes in one of the four ways, `decode?` reads back in that way (`decode?_encode`). A text
may fit several of the four ways, but all that fit it read the same octets from it (`decode?_unique`), so
it does not matter in which order they are tried (`read_encode`).
-/

namespace TypedFilters.Base64

open Text

/-! ## Symbols -/

section Symbols

variable {a a' : Alphabet} {v : Nat}

theorem value?_symbol (small : v < 64) : a.value? (a.symbol v) = some v := by
  have all : ∀ a ∈ [Alphabet.standard, .urlSafe], ∀ v < 64, a.value? (a.symbol v) = some v := by
    decide
  exact all a (by cases a <;> decide) v small

theorem visible_symbol (small : v < 64) :
    33 ≤ (a.symbol v).toNat ∧ (a.symbol v).toNat ≤ 126 ∧ a.symbol v ≠ pad := by
  have all : ∀ a ∈ [Alphabet.standard, .urlSafe], ∀ v < 64,
      33 ≤ (a.symbol v).toNat ∧ (a.symbol v).toNat ≤ 126 ∧ a.symbol v ≠ pad := by
    decide
  exact all a (by cases a <;> decide) v small

theorem value?_pad : a.value? pad = none := by
  cases a <;> decide

theorem symbol62_ne_symbol63 (a a' : Alphabet) : a.symbol62 ≠ a'.symbol63 := by
  cases a <;> cases a' <;> decide

/-- The two alphabets do not contradict each other. -/
theorem value?_unique {b : UInt8} {x y : Nat} (one : a.value? b = some x)
    (other : a'.value? b = some y) : x = y := by
  unfold Alphabet.value? at one other
  by_cases capital : 65 ≤ b ∧ b ≤ 90
  · rw [if_pos capital] at one other
    exact Option.some.inj (one.symm.trans other)
  rw [if_neg capital] at one other
  by_cases letter : 97 ≤ b ∧ b ≤ 122
  · rw [if_pos letter] at one other
    exact Option.some.inj (one.symm.trans other)
  rw [if_neg letter] at one other
  by_cases digit : 48 ≤ b ∧ b ≤ 57
  · rw [if_pos digit] at one other
    exact Option.some.inj (one.symm.trans other)
  rw [if_neg digit] at one other
  split at one
  · next is62 =>
    have no63 : b ≠ a'.symbol63 := is62 ▸ symbol62_ne_symbol63 a a'
    rw [if_neg no63] at other
    split at other
    · exact Option.some.inj (one.symm.trans other)
    · cases other
  split at one
  · next is63 =>
    have no62 : b ≠ a'.symbol62 := is63 ▸ (symbol62_ne_symbol63 a' a).symm
    rw [if_neg no62] at other
    split at other
    · exact Option.some.inj (one.symm.trans other)
    · cases other
  · cases one

end Symbols

/-! ## What is written is read back -/

section Groups

variable {a a' : Alphabet} {x y z w : Nat}

theorem oneOctet?_symbols (x_lt : x < 64) (y_lt : y < 64) (rest : y % 16 = 0) :
    oneOctet? a (a.symbol x) (a.symbol y) = some [UInt8.ofNat (x * 4 + y / 16)] := by
  simp only [oneOctet?, value?_symbol x_lt, value?_symbol y_lt, bind, Option.bind, if_pos rest]

theorem twoOctets?_symbols (x_lt : x < 64) (y_lt : y < 64) (z_lt : z < 64) (rest : z % 4 = 0) :
    twoOctets? a (a.symbol x) (a.symbol y) (a.symbol z) =
      some [UInt8.ofNat (x * 4 + y / 16), UInt8.ofNat (y % 16 * 16 + z / 4)] := by
  simp only [twoOctets?, value?_symbol x_lt, value?_symbol y_lt, value?_symbol z_lt, bind,
    Option.bind, if_pos rest]

theorem threeOctets?_symbols (x_lt : x < 64) (y_lt : y < 64) (z_lt : z < 64) (w_lt : w < 64) :
    threeOctets? a (a.symbol x) (a.symbol y) (a.symbol z) (a.symbol w) =
      some [UInt8.ofNat (x * 4 + y / 16), UInt8.ofNat (y % 16 * 16 + z / 4),
        UInt8.ofNat (z % 4 * 64 + w)] := by
  simp only [threeOctets?, value?_symbol x_lt, value?_symbol y_lt, value?_symbol z_lt,
    value?_symbol w_lt, bind, Option.bind]

end Groups

/-- What is written in one of the four ways is read back in that way. -/
theorem decode?_encode (a : Alphabet) (padded : Bool) (bs : List UInt8) :
    decode? a padded (encode a padded bs) = some bs := by
  have whole : ∀ {n : Nat} {b : UInt8}, n = b.toNat → UInt8.ofNat n = b := by
    intro n b eq
    rw [eq, UInt8.ofNat_toNat]
  induction bs using encode.induct with
  | case1 => rfl
  | case2 p =>
    have := p.toNat_lt
    have read := @oneOctet?_symbols a (p.toNat / 4) (p.toNat % 4 * 16) (by omega) (by omega) (by omega)
    rw [whole (show _ = p.toNat by omega)] at read
    cases padded <;> exact read
  | case3 p q =>
    have := p.toNat_lt
    have := q.toNat_lt
    have read := @twoOctets?_symbols a (p.toNat / 4) (p.toNat % 4 * 16 + q.toNat / 16)
      (q.toNat % 16 * 4) (by omega) (by omega) (by omega) (by omega)
    rw [whole (show _ = p.toNat by omega), whole (show _ = q.toNat by omega)] at read
    cases padded with
    | false => exact read
    | true =>
      have unpadded : a.symbol (q.toNat % 16 * 4) ≠ pad := (visible_symbol (by omega)).2.2
      rw [encode, if_pos rfl, decode?, if_pos ⟨rfl, rfl, rfl⟩, if_neg unpadded, read]
  | case4 p q r rest ih =>
    have := p.toNat_lt
    have := q.toNat_lt
    have := r.toNat_lt
    have read := @threeOctets?_symbols a (p.toNat / 4) (p.toNat % 4 * 16 + q.toNat / 16)
      (q.toNat % 16 * 4 + r.toNat / 64) (r.toNat % 64) (by omega) (by omega) (by omega) (by omega)
    rw [whole (show _ = p.toNat by omega), whole (show _ = q.toNat by omega),
      whole (show _ = r.toNat by omega)] at read
    have unpadded : a.symbol (r.toNat % 64) ≠ pad := (visible_symbol (by omega)).2.2
    rw [encode, decode?, if_neg fun last => unpadded last.2.2, read, ih]
    rfl

/-- What is written in one of the four ways consists of visible ASCII characters. -/
theorem visible_of_mem_encode {a : Alphabet} {padded : Bool} {bs : List UInt8} :
    ∀ b ∈ encode a padded bs, 33 ≤ b.toNat ∧ b.toNat ≤ 126 := by
  have symbol : ∀ {v}, v < 64 → 33 ≤ (a.symbol v).toNat ∧ (a.symbol v).toNat ≤ 126 :=
    fun small => ⟨(visible_symbol small).1, (visible_symbol small).2.1⟩
  have padding : ∀ n, ∀ b ∈ (if padded then List.replicate n pad else []),
      33 ≤ b.toNat ∧ b.toNat ≤ 126 := by
    intro n b written
    split at written
    · rw [List.eq_of_mem_replicate written]
      decide
    · cases written
  induction bs using encode.induct with
  | case1 => exact List.forall_mem_nil _
  | case2 p =>
    have := p.toNat_lt
    simp only [encode, List.forall_mem_cons]
    exact ⟨symbol (by omega), symbol (by omega), padding 2⟩
  | case3 p q =>
    have := p.toNat_lt
    have := q.toNat_lt
    simp only [encode, List.forall_mem_cons]
    exact ⟨symbol (by omega), symbol (by omega), symbol (by omega), padding 1⟩
  | case4 p q r rest ih =>
    have := p.toNat_lt
    have := q.toNat_lt
    have := r.toNat_lt
    simp only [encode, List.forall_mem_cons]
    exact ⟨symbol (by omega), symbol (by omega), symbol (by omega), symbol (by omega), ih⟩

theorem encode_eq_nil_iff {a : Alphabet} {padded : Bool} {bs : List UInt8} :
    encode a padded bs = [] ↔ bs = [] := by
  unfold encode
  split <;> simp only [reduceCtorEq]

/-! ## No text is read in two ways -/

section Unique

variable {a a' : Alphabet} {padded padded' : Bool} {s t u v : UInt8} {x y : List UInt8}

/-- Readings that begin with the same symbol go on with the same six bits. -/
theorem exists_of_bind_value? {f g : Nat → Option (List UInt8)}
    (one : (a.value? s).bind f = some x) (other : (a'.value? s).bind g = some y) :
    ∃ bits, f bits = some x ∧ g bits = some y := by
  obtain ⟨bits, value, one⟩ := Option.bind_eq_some_iff.mp one
  obtain ⟨bits', value', other⟩ := Option.bind_eq_some_iff.mp other
  rw [value?_unique value value'] at one
  exact ⟨bits', one, other⟩

theorem oneOctet?_unique (one : oneOctet? a s t = some x) (other : oneOctet? a' s t = some y) :
    x = y := by
  obtain ⟨_, one, other⟩ := exists_of_bind_value? one other
  obtain ⟨_, one, other⟩ := exists_of_bind_value? one other
  exact Option.some.inj (one.symm.trans other)

theorem twoOctets?_unique (one : twoOctets? a s t u = some x)
    (other : twoOctets? a' s t u = some y) : x = y := by
  obtain ⟨_, one, other⟩ := exists_of_bind_value? one other
  obtain ⟨_, one, other⟩ := exists_of_bind_value? one other
  obtain ⟨_, one, other⟩ := exists_of_bind_value? one other
  exact Option.some.inj (one.symm.trans other)

theorem threeOctets?_unique (one : threeOctets? a s t u v = some x)
    (other : threeOctets? a' s t u v = some y) : x = y := by
  obtain ⟨_, one, other⟩ := exists_of_bind_value? one other
  obtain ⟨_, one, other⟩ := exists_of_bind_value? one other
  obtain ⟨_, one, other⟩ := exists_of_bind_value? one other
  obtain ⟨_, one, other⟩ := exists_of_bind_value? one other
  exact Option.some.inj (one.symm.trans other)

/-- A group that ends with the padding is no group of four symbols. -/
theorem threeOctets?_pad : threeOctets? a s t u pad ≠ some x := by
  intro read
  obtain ⟨s₁, _, read⟩ := Option.bind_eq_some_iff.mp read
  obtain ⟨t₁, _, read⟩ := Option.bind_eq_some_iff.mp read
  obtain ⟨u₁, _, read⟩ := Option.bind_eq_some_iff.mp read
  obtain ⟨v₁, value_v, _⟩ := Option.bind_eq_some_iff.mp read
  rw [value?_pad] at value_v
  cases value_v

/-- What can be read from a text of at least four symbols. -/
theorem decode?_group {rest : List UInt8} (read : decode? a padded (s :: t :: u :: v :: rest) = some x) :
    (v = pad ∧ u = pad ∧ oneOctet? a s t = some x) ∨
      (v = pad ∧ u ≠ pad ∧ twoOctets? a s t u = some x) ∨
      (v ≠ pad ∧ ∃ front back, threeOctets? a s t u v = some front ∧
        decode? a padded rest = some back ∧ front ++ back = x) := by
  rw [decode?] at read
  split at read
  · next last =>
    split at read
    · next one => exact .inl ⟨last.2.2, one, read⟩
    · next two => exact .inr (.inl ⟨last.2.2, two, read⟩)
  · obtain ⟨front, group, read⟩ := Option.bind_eq_some_iff.mp read
    obtain ⟨back, others, read⟩ := Option.bind_eq_some_iff.mp read
    have unpadded : v ≠ pad := by
      intro padding
      rw [padding] at group
      exact threeOctets?_pad group
    exact .inr (.inr ⟨unpadded, front, back, group, others, Option.some.inj read⟩)

end Unique

/-- Two ways that fit a text read the same octets from it. -/
theorem decode?_unique {a a' : Alphabet} {padded padded' : Bool} :
    ∀ {bs x y : List UInt8}, decode? a padded bs = some x → decode? a' padded' bs = some y → x = y
  | [], _, _, one, other => Option.some.inj (one.symm.trans other)
  | [_], _, _, one, _ => nomatch one
  | [s, t], x, y, one, other => by
    rw [decode?] at one other
    split at one
    · cases one
    split at other
    · cases other
    exact oneOctet?_unique one other
  | [s, t, u], x, y, one, other => by
    rw [decode?] at one other
    split at one
    · cases one
    split at other
    · cases other
    exact twoOctets?_unique one other
  | s :: t :: u :: v :: rest, x, y, one, other => by
    -- Both readings see the same padding, so only the cases on the diagonal are possible.
    rcases decode?_group one with ⟨pv, pu, one⟩ | ⟨pv, pu, one⟩ | ⟨pv, front, back, group, others, rfl⟩ <;>
    rcases decode?_group other with ⟨pv', pu', other⟩ | ⟨pv', pu', other⟩ |
      ⟨pv', front', back', group', others', rfl⟩
    · exact oneOctet?_unique one other
    · exact absurd pu pu'
    · exact absurd pv pv'
    · exact absurd pu' pu
    · exact twoOctets?_unique one other
    · exact absurd pv pv'
    · exact absurd pv' pv
    · exact absurd pv' pv
    · rw [threeOctets?_unique group group', decode?_unique others others']

/-- What is written in one of the four ways is read back, whichever way fits it first. -/
theorem read_encode (a : Alphabet) (padded : Bool) (bs : List UInt8) :
    read (encode a padded bs) = .ok bs := by
  have fits := decode?_encode a padded bs
  have same : ∀ {a' padded' x}, decode? a' padded' (encode a padded bs) = some x → x = bs :=
    fun other => decode?_unique other fits
  unfold read
  dsimp only
  cases found : ((decode? .standard true (encode a padded bs)).or
      (decode? .standard false (encode a padded bs))).or
    ((decode? .urlSafe true (encode a padded bs)).or
      (decode? .urlSafe false (encode a padded bs))) with
  | none =>
    simp only [Option.or_eq_none_iff] at found
    rcases found with ⟨⟨standardPadded, standard⟩, urlSafePadded, urlSafe⟩
    rcases a with _ | _ <;> rcases padded with _ | _
    · rw [standard] at fits
      cases fits
    · rw [standardPadded] at fits
      cases fits
    · rw [urlSafe] at fits
      cases fits
    · rw [urlSafePadded] at fits
      cases fits
  | some x =>
    simp only [Option.or_eq_some_iff] at found
    dsimp only
    rcases found with (read | ⟨_, read⟩) | ⟨_, read | ⟨_, read⟩⟩
    · rw [same read]
    · rw [same read]
    · rw [same read]
    · rw [same read]

/-! ## Texts in Base64 -/

/-- The symbols that write the octets of a text in one of the four ways. -/
def symbols (a : Alphabet) (padded : Bool) (s : String) : List Char :=
  (encode a padded (octets s)).map fun b => Char.ofNat b.toNat

/-- One of the four Base64 forms of the octets of a text, with any blanks around it. -/
def Spells (s raw : String) : Prop :=
  ∃ a padded front back, (∀ c ∈ front, isBlankChar c) ∧ (∀ c ∈ back, isBlankChar c) ∧
    raw = String.ofList (front ++ symbols a padded s ++ back)

section Texts

variable {a : Alphabet} {padded : Bool} {s raw : String}

theorem not_isBlankChar_of_mem_symbols {c : Char} (symbol : c ∈ symbols a padded s) :
    ¬ isBlankChar c := by
  obtain ⟨b, written, rfl⟩ := List.mem_map.mp symbol
  have visible := visible_of_mem_encode b written
  have toNat := toNat_ofNat_of_ascii (show b.toNat < 128 by omega)
  exact not_isBlankChar_of_visible (by omega) (by omega)

theorem isTrimmed_symbols : IsTrimmed (String.ofList (symbols a padded s)) := by
  constructor
  · intro c head
    rw [String.toList_ofList] at head
    exact not_isBlankChar_of_mem_symbols (List.mem_of_mem_head? head)
  · intro c last
    rw [String.toList_ofList] at last
    exact not_isBlankChar_of_mem_symbols (List.mem_of_getLast? last)

theorem octets_symbols : octets (String.ofList (symbols a padded s)) = encode a padded (octets s) := by
  apply octets_of_ascii
  intro b written
  have := visible_of_mem_encode b written
  omega

/-- A Base64 form of a text is decoded to the text. -/
theorem Spells.text (spells : Spells s raw) : Encoding.base64.text raw = .ok s := by
  rcases spells with ⟨a, padded, front, back, blankFront, blankBack, rfl⟩
  rw [Encoding.text, trim_surrounded blankFront blankBack, isTrimmed_symbols.trim_eq, octets_symbols,
    read_encode]
  dsimp only [Encoding.utf8]
  rw [ofOctets?_octets]

/-- A Base64 form of a text is blank exactly if the text is empty. -/
theorem Spells.isBlank_iff (spells : Spells s raw) : isBlank raw ↔ s = "" := by
  rcases spells with ⟨a, padded, front, back, blankFront, blankBack, rfl⟩
  rw [← trim_eq_empty_iff, trim_surrounded blankFront blankBack, isTrimmed_symbols.trim_eq,
    String.ofList_eq_empty_iff, symbols, List.map_eq_nil_iff, encode_eq_nil_iff, octets_eq_nil_iff]

end Texts

end TypedFilters.Base64
