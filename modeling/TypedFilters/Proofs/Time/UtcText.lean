import Mathlib.Data.List.Forall2
import TypedFilters.Proofs.Text.Digits
import TypedFilters.Proofs.Text.Trimming
import TypedFilters.Proofs.Time.Instant

/-!
# Canonical UTC texts

A canonical text has the form `YYYY-MM-DDTHH:MM:SS`, with a point and three, six or nine digits or
without, and a final `Z`, and spells a moment that exists with as few fraction digits as it needs
(`IsCanonicalUtc`). Such a text is read back as the civil time that it spells (`read?_civilText`), so
normalising it changes nothing, whatever the zone (`toUtcText?_of_isCanonicalUtc`). The texts of
instants that are timestamps are canonical (`isCanonicalUtc_utcText`).
-/

namespace TypedFilters

open Text

/-- The characters have a form, in which a zero stands for any digit and any other character for
itself. -/
def FitsForm (form cs : List Char) : Prop :=
  List.Forall₂ (fun f c => if f = '0' then isDigit c = true else c = f) form cs

/-- That many digits in a form. -/
def digitsForm (width : Nat) : List Char :=
  List.replicate width '0'

/-- A point and that many digits, or nothing for none. -/
def fractionForm (width : Nat) : List Char :=
  if width = 0 then [] else '.' :: digitsForm width

/-- The form `YYYY-MM-DDTHH:MM:SS` with a number of fraction digits and a final `Z`. -/
def utcForm (fractionDigits : Nat) : List Char :=
  digitsForm 4 ++ '-' :: digitsForm 2 ++ '-' :: digitsForm 2 ++ 'T' :: digitsForm 2 ++
    ':' :: digitsForm 2 ++ ':' :: digitsForm 2 ++ fractionForm fractionDigits ++ ['Z']

example : utcForm 3 = "0000-00-00T00:00:00.000Z".toList := by decide

/-- A text of the form, with 0, 3, 6 or 9 fraction digits, that is the text of a valid civil time. -/
structure IsCanonicalUtc (s : String) : Prop where
  form : ∃ fractionDigits ∈ [0, 3, 6, 9], FitsForm (utcForm fractionDigits) s.toList
  spells : ∃ c : Civil, c.isValid ∧ 0 ≤ c.year ∧ c.year ≤ 9999 ∧
    s.toList = Instant.civilText c

/-! ## Numbers of fixed width -/

section Padded

variable {width n : Nat}

theorem isDigit_of_mem_padded {c : Char} (written : c ∈ Instant.padded width n) : isDigit c := by
  rcases List.mem_append.mp written with zero | digit
  · rw [(List.mem_replicate.mp zero).2]
    decide
  · exact isDigit_of_mem_toDigits digit

theorem length_padded (pos : 0 < width) (small : n < 10 ^ width) :
    (Instant.padded width n).length = width := by
  have short := (Nat.length_toDigits_le_iff (by decide) pos).mpr small
  rw [Instant.padded, List.leftpad, List.length_append, List.length_replicate]
  omega

theorem digitsValue_padded : digitsValue (Instant.padded width n) = n := by
  rw [Instant.padded, List.leftpad, digitsValue_zeros_append, digitsValue_toDigits]

theorem fixed?_padded (pos : 0 < width) (small : n < 10 ^ width) (rest : List Char) :
    Rfc3339.fixed? width (Instant.padded width n ++ rest) = some (n, rest) := by
  have length := length_padded pos small
  have front : (Instant.padded width n ++ rest).take width = Instant.padded width n := by
    rw [List.take_append_of_le_length (by omega), List.take_of_length_le (by omega)]
  have back : (Instant.padded width n ++ rest).drop width = rest := by
    rw [List.drop_append_of_le_length (by omega), List.drop_of_length_le (by omega), List.nil_append]
  have digits : (Instant.padded width n).all isDigit := List.all_eq_true.mpr fun _ => isDigit_of_mem_padded
  simp only [Rfc3339.fixed?, front, back, length, digits, digitsValue_padded, true_and, if_true]

theorem fitsForm_padded (pos : 0 < width) (small : n < 10 ^ width) :
    FitsForm (digitsForm width) (Instant.padded width n) := by
  have length := length_padded pos small
  refine List.forall₂_iff_get.mpr ⟨by rw [digitsForm, List.length_replicate, length], fun i _ _ => ?_⟩
  simp only [digitsForm, List.get_eq_getElem, List.getElem_replicate, if_true]
  exact isDigit_of_mem_padded (List.get_mem _ _)

end Padded

/-! ## Reading a canonical text back -/

/-- A fraction of up to nine digits is read as nanoseconds. -/
theorem fraction?_padded {width m : Nat} (pos : 0 < width) (le : width ≤ 9) (small : m < 10 ^ width) :
    Rfc3339.fraction? ('.' :: (Instant.padded width m ++ ['Z'])) =
      some (m * 10 ^ (9 - width), ['Z']) := by
  have length := length_padded pos small
  have split := splitDigits_append (fun _ => @isDigit_of_mem_padded width m _)
    (show ¬ isDigit 'Z' by decide) []
  have some : (Instant.padded width m).isEmpty = false := by
    rw [List.isEmpty_eq_false_iff, ← List.length_pos_iff]
    omega
  have nanos : digitsValue (((Instant.padded width m).take 9).rightpad 9 '0') = m * 10 ^ (9 - width) := by
    rw [List.take_of_length_le (by omega), List.rightpad, length, digitsValue_append_zeros,
      digitsValue_padded]
  simp only [Rfc3339.fraction?, split, some, nanos, Bool.false_eq_true, if_false]

theorem fraction?_fractionText {nanos : Nat} (small : nanos < 1000000000) :
    Rfc3339.fraction? (Instant.fractionText nanos ++ ['Z']) = some (nanos, ['Z']) := by
  unfold Instant.fractionText
  split
  · next none =>
    rw [none]
    rfl
  split
  · rw [List.cons_append, fraction?_padded (by decide) (by decide) (by omega)]
    congr 2
    omega
  split
  · rw [List.cons_append, fraction?_padded (by decide) (by decide) (by omega)]
    congr 2
    omega
  · rw [List.cons_append, fraction?_padded (by decide) (by decide) (by omega), Nat.sub_self,
      Nat.pow_zero, Nat.mul_one]

/-- The text of a civil time of a four-digit year is read back as that time in UTC. -/
theorem read?_civilText {c : Civil} (valid : c.isValid) (year_nonneg : 0 ≤ c.year)
    (year_le : c.year ≤ 9999) : Rfc3339.read? (Instant.civilText c) = some (c, 0) := by
  obtain ⟨_, ⟨_, month, _, day⟩, hour, minute, second, nanos⟩ := (Civil.isValid_iff c).mp valid
  have short := Civil.daysInMonth_le c.year c.month
  have yearText : Instant.yearText c.year = Instant.padded 4 c.year.toNat := by
    rw [Instant.yearText, if_pos ⟨year_nonneg, year_le⟩]
  have year : ((c.year.toNat : Nat) : Int) = c.year := Int.toNat_of_nonneg year_nonneg
  have two : ∀ n, n < 100 → ∀ rest, Rfc3339.fixed? 2 (Instant.padded 2 n ++ rest) = some (n, rest) :=
    fun _ small => fixed?_padded (by decide) small
  have four : ∀ rest, Rfc3339.fixed? 4 (Instant.padded 4 c.year.toNat ++ rest) =
      some (c.year.toNat, rest) :=
    fixed?_padded (by decide) (by omega)
  have skip : ∀ d rest, Rfc3339.skip? d (d :: rest) = some rest := fun _ _ => if_pos rfl
  simp only [Instant.civilText, yearText, List.append_assoc, List.cons_append]
  unfold Rfc3339.read?
  refine Option.bind_eq_some_iff.mpr ⟨_, four _, ?_⟩
  refine Option.bind_eq_some_iff.mpr ⟨_, skip _ _, ?_⟩
  refine Option.bind_eq_some_iff.mpr ⟨_, two c.month (by omega) _, ?_⟩
  refine Option.bind_eq_some_iff.mpr ⟨_, skip _ _, ?_⟩
  refine Option.bind_eq_some_iff.mpr ⟨_, two c.day (by omega) _, ?_⟩
  refine Option.bind_eq_some_iff.mpr ⟨_, rfl, ?_⟩
  refine Option.bind_eq_some_iff.mpr ⟨_, two c.hour (by omega) _, ?_⟩
  refine Option.bind_eq_some_iff.mpr ⟨_, skip _ _, ?_⟩
  refine Option.bind_eq_some_iff.mpr ⟨_, two c.minute (by omega) _, ?_⟩
  refine Option.bind_eq_some_iff.mpr ⟨_, skip _ _, ?_⟩
  refine Option.bind_eq_some_iff.mpr ⟨_, two c.second (by omega) _, ?_⟩
  refine Option.bind_eq_some_iff.mpr ⟨_, fraction?_fractionText nanos, ?_⟩
  refine Option.bind_eq_some_iff.mpr ⟨0, rfl, ?_⟩
  simp only [year, valid, if_true]

/-! ## Canonical texts are fixed points -/

theorem not_isBlankChar_of_isDigit {c : Char} (digit : isDigit c) : ¬ isBlankChar c := by
  have := (isDigit_iff c).mp digit
  exact not_isBlankChar_of_visible (by omega) (by omega)

theorem padded_ne_nil (width n : Nat) : Instant.padded width n ≠ [] := by
  rw [Instant.padded, List.leftpad]
  exact List.append_ne_nil_of_right_ne_nil _ Nat.toDigits_ne_nil

/-- The text of a year starts with a sign or a digit, and neither is blank. -/
theorem not_isBlankChar_head?_yearText (year : Int) (rest : List Char) :
    ∀ c ∈ (Instant.yearText year ++ rest).head?, ¬ isBlankChar c := by
  intro c head
  unfold Instant.yearText at head
  split at head
  · obtain ⟨digit, digits, number⟩ := List.exists_cons_of_ne_nil (padded_ne_nil 4 year.toNat)
    rw [number, List.cons_append, List.head?_cons, Option.mem_some] at head
    have written : c ∈ Instant.padded 4 year.toNat := by
      rw [number, head]
      exact List.mem_cons_self
    exact not_isBlankChar_of_isDigit (isDigit_of_mem_padded written)
  · rw [List.cons_append, List.head?_cons, Option.mem_some] at head
    rw [← head]
    split <;> decide

theorem isTrimmed_civilText (c : Civil) : IsTrimmed (String.ofList (Instant.civilText c)) := by
  constructor
  · rw [String.toList_ofList, Instant.civilText]
    simp only [List.append_assoc, List.cons_append]
    exact not_isBlankChar_head?_yearText c.year _
  · intro last tail
    rw [String.toList_ofList, Instant.civilText, List.getLast?_append, List.getLast?_singleton] at tail
    rw [← Option.mem_some.mp tail]
    decide

theorem IsCanonicalUtc.isTrimmed {s : String} (canonical : IsCanonicalUtc s) : IsTrimmed s := by
  rcases canonical.spells with ⟨c, _, _, _, text⟩
  rw [← @String.ofList_toList s, text]
  exact isTrimmed_civilText c

theorem IsCanonicalUtc.isTimestamp {s : String} (canonical : IsCanonicalUtc s) :
    Rfc3339.isTimestamp s := by
  rcases canonical.spells with ⟨c, valid, year_nonneg, year_le, text⟩
  rw [Rfc3339.isTimestamp, text, read?_civilText valid year_nonneg year_le, Option.isSome_some]

theorem IsCanonicalUtc.ne_empty {s : String} (canonical : IsCanonicalUtc s) : s ≠ "" := by
  intro empty
  have timestamp := canonical.isTimestamp
  rw [empty] at timestamp
  cases timestamp

/-- A canonical text is the UTC text of what it spells, whatever the zone. -/
theorem toUtcText?_of_isCanonicalUtc {s : String} (canonical : IsCanonicalUtc s) (zone : Zone) :
    toUtcText? zone s = some s := by
  have trimmed := canonical.isTrimmed
  rcases canonical.spells with ⟨c, valid, year_nonneg, year_le, text⟩
  have read : instant? zone s.toList = some (c.instant 0) := by
    rw [instant?, text, read?_civilText valid year_nonneg year_le]
  rw [toUtcText?, trimChars_eq_self trimmed.first trimmed.last, read, Option.map_some, Instant.utcText,
    Civil.civil_instant valid, ← text, String.ofList_toList]

/-! ## UTC texts of instants are canonical -/

theorem FitsForm.append {f g cs ds : List Char} (front : FitsForm f cs) (back : FitsForm g ds) :
    FitsForm (f ++ g) (cs ++ ds) :=
  List.rel_append front back

theorem FitsForm.mark {m : Char} (other : m ≠ '0') {f cs : List Char} (back : FitsForm f cs) :
    FitsForm (m :: f) (m :: cs) := by
  refine List.Forall₂.cons ?_ back
  rw [if_neg other]

theorem fitsForm_fractionText {nanos : Nat} (small : nanos < 1000000000) :
    ∃ width ∈ [0, 3, 6, 9], FitsForm (fractionForm width) (Instant.fractionText nanos) := by
  unfold Instant.fractionText
  split
  · exact ⟨0, by decide, List.Forall₂.nil⟩
  split
  · exact ⟨3, by decide, .mark (by decide) (fitsForm_padded (by decide) (by omega))⟩
  split
  · exact ⟨6, by decide, .mark (by decide) (fitsForm_padded (by decide) (by omega))⟩
  · exact ⟨9, by decide, .mark (by decide) (fitsForm_padded (by decide) (by omega))⟩

/-- The text of a valid civil time of a four-digit year is canonical. -/
theorem isCanonicalUtc_civilText {c : Civil} (valid : c.isValid) (year_nonneg : 0 ≤ c.year)
    (year_le : c.year ≤ 9999) : IsCanonicalUtc (String.ofList (Instant.civilText c)) := by
  refine ⟨?_, c, valid, year_nonneg, year_le, String.toList_ofList⟩
  obtain ⟨_, ⟨_, month, _, day⟩, hour, minute, second, nanos⟩ := (Civil.isValid_iff c).mp valid
  have short := Civil.daysInMonth_le c.year c.month
  obtain ⟨width, known, fraction⟩ := fitsForm_fractionText nanos
  have two : ∀ n, n < 100 → FitsForm (digitsForm 2) (Instant.padded 2 n) :=
    fun _ small => fitsForm_padded (by decide) small
  have year : FitsForm (digitsForm 4) (Instant.yearText c.year) := by
    rw [Instant.yearText, if_pos ⟨year_nonneg, year_le⟩]
    exact fitsForm_padded (by decide) (by omega)
  refine ⟨width, known, ?_⟩
  rw [String.toList_ofList, utcForm, Instant.civilText]
  exact ((((((year.append (.mark (by decide) (two _ (by omega)))).append
    (.mark (by decide) (two _ (by omega)))).append (.mark (by decide) (two _ (by omega)))).append
    (.mark (by decide) (two _ (by omega)))).append (.mark (by decide) (two _ (by omega)))).append
    fraction).append (.mark (by decide) List.Forall₂.nil)

/-- A year that a timestamp can be read with has four digits and no sign. -/
theorem year_of_isTimestamp_civilText {c : Civil}
    (timestamp : Rfc3339.isTimestamp (String.ofList (Instant.civilText c))) :
    0 ≤ c.year ∧ c.year ≤ 9999 := by
  by_contra outside
  rw [Rfc3339.isTimestamp, String.toList_ofList, Option.isSome_iff_exists] at timestamp
  rcases timestamp with ⟨spelled, read⟩
  unfold Rfc3339.read? at read
  obtain ⟨_, front, _⟩ := Option.bind_eq_some_iff.mp read
  -- Outside of four digits the text begins with a sign, which is no digit.
  have sign : (if c.year < 0 then '-' else '+') ∈ (Instant.civilText c).take 4 := by
    simp only [Instant.civilText, Instant.yearText, if_neg outside, List.cons_append]
    exact List.mem_cons_self
  have digits : ((Instant.civilText c).take 4).all isDigit := by
    unfold Rfc3339.fixed? at front
    dsimp only at front
    split at front
    · next fits => exact fits.2
    · cases front
  have := List.all_eq_true.mp digits _ sign
  split at this <;> cases this

/-- The UTC text of an instant is canonical if it is a timestamp. -/
theorem isCanonicalUtc_utcText {i : Instant} (nanos : i.nanos < 2000000000)
    (timestamp : Rfc3339.isTimestamp i.utcText) : IsCanonicalUtc i.utcText := by
  obtain ⟨year_nonneg, year_le⟩ := year_of_isTimestamp_civilText timestamp
  have inRange : Civil.yearInRange i.civil.year := by
    simp only [Civil.yearInRange, Bool.and_eq_true, decide_eq_true_eq]
    omega
  exact isCanonicalUtc_civilText (Instant.isValid_civil nanos inRange) year_nonneg year_le

/-- What is kept of a date-time that was normalised to UTC, or of a text that could not be, is canonical
if it is a timestamp. -/
theorem isCanonicalUtc_trim_toUtcText? {zone : Zone} {s : String}
    (timestamp : Rfc3339.isTimestamp (trim ((toUtcText? zone s).getD s))) :
    IsCanonicalUtc (trim ((toUtcText? zone s).getD s)) := by
  cases spelled : instant? zone (trimChars s.toList) with
  | some i =>
    have utc : toUtcText? zone s = some i.utcText := by rw [toUtcText?, spelled, Option.map_some]
    have trimmed : trim i.utcText = i.utcText := (isTrimmed_civilText i.civil).trim_eq
    rw [utc, Option.getD_some, trimmed] at timestamp ⊢
    exact isCanonicalUtc_utcText (nanos_lt_of_instant? spelled) timestamp
  | none =>
    -- A text that spells no instant is no timestamp either.
    have raw : toUtcText? zone s = none := by rw [toUtcText?, spelled, Option.map_none]
    rw [raw, Option.getD_none, Rfc3339.isTimestamp, trim, String.toList_ofList,
      Option.isSome_iff_exists] at timestamp
    rcases timestamp with ⟨read, eq⟩
    rw [instant?, eq] at spelled
    cases spelled

end TypedFilters
