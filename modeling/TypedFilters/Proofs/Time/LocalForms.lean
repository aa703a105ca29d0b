import TypedFilters.Proofs.Time.Local

/-!
# What the formats of local date-times read

The formats read more than the usual forms: in a number digits may be missing and blanks may stand in
front, a year may have a sign, and any number of blanks may stand for the one between date and time. A
format cuts a text into one piece for each of its parts (`Cuts`), and it reads exactly the texts that can
be cut so (`readParts?_eq_some_iff`), each in one way (`Cuts.unique`). A text has a usual form exactly if
each of its pieces has the full width of its part (`spells_iff_forall_isFull`).
-/

namespace TypedFilters.LocalTime

open Text

/-! ## Pieces -/

/-- Digits in front of `rest` that are read as a number: no more than `width` of them, and fewer only if
no digit follows. -/
structure Figures (width n : Nat) (ds rest : List Char) : Prop where
  some : ds ≠ []
  numeral : Numeral ds.length n ds
  fits : ds.length ≤ width
  ends : ds.length < width → ∀ c ∈ rest.head?, ¬ isDigit c

/-- The year that characters in front of `rest` are read as: four digits at most, or a sign and any number
of digits. -/
inductive IsYear (rest : List Char) : Int → List Char → Prop
  | plain {year : Nat} {ds : List Char} (figures : Figures 4 year ds rest) : IsYear rest year ds
  | before {year : Nat} {ds : List Char} (some : ds ≠ []) (numeral : Numeral ds.length year ds)
      (ends : ∀ c ∈ rest.head?, ¬ isDigit c) : IsYear rest (-year) ('-' :: ds)
  | after {year : Nat} {ds : List Char} (some : ds ≠ []) (numeral : Numeral ds.length year ds)
      (ends : ∀ c ∈ rest.head?, ¬ isDigit c) : IsYear rest year ('+' :: ds)

/-- The parts of one or two digits. -/
def Part.isNumber : Part → Bool
  | .month | .day | .hour | .minute | .second => true
  | .year | .fraction | .mark _ | .blanks => false

/-- The time with the field of a part of one or two digits set to a number. -/
def Part.set (c : Civil) (n : Nat) : Part → Civil
  | .month => { c with month := n }
  | .day => { c with day := n }
  | .hour => { c with hour := n }
  | .minute => { c with minute := n }
  | .second => { c with second := n }
  | _ => c

/-- A part takes a piece in front of `rest`, and changes the time read so far. -/
inductive Part.Takes (rest : List Char) (c : Civil) : Part → Civil → List Char → Prop
  | year {n : Int} {blanks ds : List Char} (blank : ∀ b ∈ blanks, isBlankChar b)
      (isYear : IsYear rest n ds) : Takes rest c .year { c with year := n } (blanks ++ ds)
  | number {p : Part} {n : Nat} {blanks ds : List Char} (isNumber : p.isNumber)
      (blank : ∀ b ∈ blanks, isBlankChar b) (figures : Figures 2 n ds rest) :
      Takes rest c p (p.set c n) (blanks ++ ds)
  | fraction {n : Nat} {piece : List Char} (isFraction : Rfc3339.IsFraction n piece)
      (ends : ∀ d ∈ rest.head?, (piece = [] → d ≠ '.') ∧ (piece ≠ [] → ¬ isDigit d)) :
      Takes rest c .fraction { c with nanos := n } piece
  | mark {m : Char} : Takes rest c (.mark m) c [m]
  | blanks {blanks : List Char} (blank : ∀ b ∈ blanks, isBlankChar b)
      (ends : ∀ d ∈ rest.head?, ¬ isBlankChar d) : Takes rest c .blanks c blanks

/-- The pieces that the parts of a format take one after the other, from one time to another. -/
inductive Cuts : List Part → Civil → Civil → List (List Char) → Prop
  | nil {c : Civil} : Cuts [] c c []
  | cons {p : Part} {parts : List Part} {b c d : Civil} {piece : List Char} {pieces : List (List Char)}
      (first : p.Takes pieces.flatten b c piece) (later : Cuts parts c d pieces) :
      Cuts (p :: parts) b d (piece :: pieces)

/-! ## Reading a piece -/

section Pieces

variable {cs rest : List Char} {p : Part} {b c c' d : Civil}

theorem not_head?_dropWhile (test : Char → Bool) : ∀ d ∈ (cs.dropWhile test).head?, ¬ test d := by
  intro d first passes
  have stopped := List.head?_dropWhile_not test cs
  rw [Option.mem_def.mp first] at stopped
  simp only [passes, Bool.true_eq_false] at stopped

/-- Behind all blanks at the front a text goes on with a character that is none, or ends. -/
theorem dropWhile_isBlankChar_eq_iff :
    cs.dropWhile isBlankChar = rest ↔
      (∀ d ∈ rest.head?, ¬ isBlankChar d) ∧ ∃ blanks, (∀ b ∈ blanks, isBlankChar b) ∧ cs = blanks ++ rest := by
  constructor
  · rintro rfl
    exact ⟨not_head?_dropWhile isBlankChar, cs.takeWhile isBlankChar,
      fun b taken => List.mem_takeWhile_imp taken, List.takeWhile_append_dropWhile.symm⟩
  · rintro ⟨visible, blanks, blank, rfl⟩
    rw [List.dropWhile_append_of_pos blank]
    cases rest with
    | nil => rfl
    | cons d rest => exact List.dropWhile_cons_of_neg (visible d rfl)

theorem upTo?_eq_some_iff {width n : Nat} :
    upTo? width cs = some (n, rest) ↔ ∃ ds, Figures width n ds rest ∧ cs = ds ++ rest := by
  simp only [upTo?, ← List.take_takeWhile]
  constructor
  · intro read
    split at read
    · cases read
    · next some =>
      cases read
      have front : (cs.takeWhile isDigit).take width <+: cs :=
        (List.take_prefix width _).trans (List.takeWhile_prefix isDigit)
      refine ⟨_, ⟨mt List.isEmpty_iff.mpr some, ⟨rfl, fun d taken => ?_, rfl⟩, List.length_take_le _ _,
        fun short => ?_⟩, (List.prefix_iff_eq_append.mp front).symm⟩
      · exact List.mem_takeWhile_imp (List.mem_of_mem_take taken)
      · rw [List.length_take] at short
        have all : (cs.takeWhile isDigit).take width = cs.takeWhile isDigit :=
          List.take_of_length_le (by omega)
        have behind : cs.drop (cs.takeWhile isDigit).length = cs.dropWhile isDigit := by
          have whole := @List.takeWhile_append_dropWhile _ isDigit cs
          exact (congrArg _ whole.symm).trans List.drop_left
        rw [all, behind]
        exact not_head?_dropWhile isDigit
  · rintro ⟨ds, figures, rfl⟩
    have taken : ((ds ++ rest).takeWhile isDigit).take width = ds := by
      rw [List.takeWhile_append_of_pos figures.numeral.digits]
      rcases Nat.eq_or_lt_of_le figures.fits with full | short
      · exact List.take_left' full
      · cases rest with
        | nil => rw [List.takeWhile_nil, List.append_nil, List.take_of_length_le figures.fits]
        | cons c rest =>
          rw [List.takeWhile_cons_of_neg (figures.ends short c rfl), List.append_nil,
            List.take_of_length_le figures.fits]
    rw [taken, if_neg (mt List.isEmpty_iff.mp figures.some), figures.numeral.value, List.drop_left]

/-- All digits at the front, as a number, if there are any. -/
theorem bind_splitDigits_eq_some_iff {n : Int} (sign : Nat → Int) :
    (if (Decimal.splitDigits cs).1.isEmpty then none
      else some (sign (digitsValue (Decimal.splitDigits cs).1), (Decimal.splitDigits cs).2)) =
        some (n, rest) ↔
      ∃ year ds, ds ≠ [] ∧ Numeral ds.length year ds ∧ (∀ c ∈ rest.head?, ¬ isDigit c) ∧ n = sign year ∧
        cs = ds ++ rest := by
  constructor
  · intro read
    obtain ⟨split, all, ends⟩ := @splitDigits_eq cs _ _ rfl
    split at read
    · cases read
    · next some =>
      cases read
      exact ⟨_, _, mt List.isEmpty_iff.mpr some, ⟨rfl, all, rfl⟩, ends, rfl, split⟩
  · rintro ⟨year, ds, some, numeral, ends, rfl, rfl⟩
    rw [splitDigits_append_of_ends numeral.digits ends]
    dsimp only
    rw [if_neg (mt List.isEmpty_iff.mp some), numeral.value]

theorem year?_eq_some_iff {n : Int} :
    year? cs = some (n, rest) ↔ ∃ ds, IsYear rest n ds ∧ cs = ds ++ rest := by
  constructor
  · intro read
    unfold year? at read
    split at read
    · obtain ⟨year, ds, some, numeral, ends, rfl, rfl⟩ :=
        (bind_splitDigits_eq_some_iff fun year => -(year : Int)).mp read
      exact ⟨_, .before some numeral ends, rfl⟩
    · obtain ⟨year, ds, some, numeral, ends, rfl, rfl⟩ :=
        (bind_splitDigits_eq_some_iff fun year => (year : Int)).mp read
      exact ⟨_, .after some numeral ends, rfl⟩
    · obtain ⟨⟨_, _⟩, number, same⟩ := Option.map_eq_some_iff.mp read
      cases same
      obtain ⟨ds, figures, rfl⟩ := upTo?_eq_some_iff.mp number
      exact ⟨ds, .plain figures, rfl⟩
  · rintro ⟨ds, isYear, rfl⟩
    cases isYear with
    | before some numeral ends =>
      exact (bind_splitDigits_eq_some_iff fun year => -(year : Int)).mpr
        ⟨_, _, some, numeral, ends, rfl, rfl⟩
    | after some numeral ends =>
      exact (bind_splitDigits_eq_some_iff fun year => (year : Int)).mpr
        ⟨_, _, some, numeral, ends, rfl, rfl⟩
    | plain figures =>
      have noSign : ∀ sign after, ¬ isDigit sign → ds ++ rest ≠ sign :: after := by
        intro sign after other same
        rcases List.exists_cons_of_ne_nil figures.some with ⟨d, ds, rfl⟩
        obtain rfl := (List.cons.inj same).1
        exact other (figures.numeral.digits d List.mem_cons_self)
      unfold year?
      split
      · next same => exact absurd same (noSign '-' _ (by decide))
      · next same => exact absurd same (noSign '+' _ (by decide))
      · rw [upTo?_eq_some_iff.mpr ⟨ds, figures, rfl⟩, Option.map_some]

theorem Figures.visible {width n : Nat} {ds : List Char} (figures : Figures width n ds rest) :
    ∀ d ∈ (ds ++ rest).head?, ¬ isBlankChar d := by
  rcases List.exists_cons_of_ne_nil figures.some with ⟨d, ds, rfl⟩
  rintro _ ⟨⟩
  exact not_isBlankChar_of_isDigit (figures.numeral.digits d List.mem_cons_self)

theorem IsYear.visible {n : Int} {ds : List Char} (isYear : IsYear rest n ds) :
    ∀ d ∈ (ds ++ rest).head?, ¬ isBlankChar d := by
  cases isYear with
  | plain figures => exact figures.visible
  | before | after =>
    rintro _ ⟨⟩
    decide

theorem fraction?_eq_some_iff {n : Nat} :
    Rfc3339.fraction? cs = some (n, rest) ↔
      ∃ piece, Rfc3339.IsFraction n piece ∧
        (∀ d ∈ rest.head?, (piece = [] → d ≠ '.') ∧ (piece ≠ [] → ¬ isDigit d)) ∧ cs = piece ++ rest := by
  constructor
  · intro read
    unfold Rfc3339.fraction? at read
    split at read
    · next after =>
      cases split : Decimal.splitDigits after with
      | mk digits behind =>
        obtain ⟨rfl, all, ends⟩ := splitDigits_eq split
        rw [split] at read
        dsimp only at read
        split at read
        · cases read
        · next some =>
          cases read
          rw [Rfc3339.nanos_eq all]
          exact ⟨_, .digits (mt List.isEmpty_iff.mpr some) all, fun d first => ⟨nofun, fun _ => ends d first⟩,
            rfl⟩
    · next noPoint =>
      cases read
      refine ⟨[], .none, fun d first => ⟨?_, fun none => absurd rfl none⟩, rfl⟩
      rintro _ rfl
      rcases List.head?_eq_some_iff.mp first with ⟨behind, rfl⟩
      exact noPoint behind rfl
  · rintro ⟨piece, isFraction, ends, rfl⟩
    cases isFraction with
    | none =>
      unfold Rfc3339.fraction?
      split
      · next point =>
        rw [List.nil_append] at point
        rw [point] at ends
        exact absurd rfl ((ends '.' rfl).1 rfl)
      · rfl
    | digits some all =>
      rw [List.cons_append, Rfc3339.fraction?,
        splitDigits_append_of_ends all fun d first => (ends d first).2 (List.cons_ne_nil _ _)]
      dsimp only
      rw [if_neg (mt List.isEmpty_iff.mp some), Rfc3339.nanos_eq all]

/-- A part of one or two digits sets its field to the number that it reads. -/
theorem Part.read?_of_isNumber {n : Nat} (isNumber : p.isNumber)
    (read : upTo? 2 (cs.dropWhile isBlankChar) = some (n, rest)) :
    p.read? c cs = some (p.set c n, rest) := by
  cases p with
  | year | fraction | mark | blanks => cases isNumber
  | month | day | hour | minute | second =>
    rw [Part.read?, read, Option.map_some]
    rfl

/-- A part reads a piece of the text exactly if it takes it. -/
theorem Part.read?_eq_some_iff :
    p.read? c cs = some (c', rest) ↔ ∃ piece, p.Takes rest c c' piece ∧ cs = piece ++ rest := by
  constructor
  · intro read
    cases p with
    | year =>
      obtain ⟨⟨_, _⟩, number, same⟩ := Option.map_eq_some_iff.mp read
      cases same
      obtain ⟨ds, isYear, behind⟩ := year?_eq_some_iff.mp number
      obtain ⟨_, blanks, blank, rfl⟩ := dropWhile_isBlankChar_eq_iff.mp behind
      exact ⟨blanks ++ ds, .year blank isYear, (List.append_assoc blanks ds rest).symm⟩
    | month | day | hour | minute | second =>
      obtain ⟨⟨_, _⟩, number, same⟩ := Option.map_eq_some_iff.mp read
      cases same
      obtain ⟨ds, figures, behind⟩ := upTo?_eq_some_iff.mp number
      obtain ⟨_, blanks, blank, rfl⟩ := dropWhile_isBlankChar_eq_iff.mp behind
      exact ⟨blanks ++ ds, .number rfl blank figures, (List.append_assoc blanks ds rest).symm⟩
    | fraction =>
      obtain ⟨⟨_, _⟩, number, same⟩ := Option.map_eq_some_iff.mp read
      cases same
      obtain ⟨piece, isFraction, ends, split⟩ := fraction?_eq_some_iff.mp number
      exact ⟨piece, .fraction isFraction ends, split⟩
    | mark m =>
      obtain ⟨_, found, same⟩ := Option.map_eq_some_iff.mp read
      cases same
      exact ⟨[m], .mark, Rfc3339.skip?_eq_some_iff.mp found⟩
    | blanks =>
      cases read
      obtain ⟨visible, blanks, blank, split⟩ := dropWhile_isBlankChar_eq_iff.mp (Eq.refl (cs.dropWhile _))
      exact ⟨blanks, .blanks blank visible, split⟩
  · rintro ⟨_, takes, rfl⟩
    cases takes with
    | @year _ blanks ds blank isYear =>
      rw [List.append_assoc, Part.read?,
        dropWhile_isBlankChar_eq_iff.mpr ⟨isYear.visible, blanks, blank, rfl⟩,
        year?_eq_some_iff.mpr ⟨ds, isYear, rfl⟩, Option.map_some]
    | @number _ _ blanks ds isNumber blank figures =>
      apply Part.read?_of_isNumber isNumber
      rw [List.append_assoc, dropWhile_isBlankChar_eq_iff.mpr ⟨figures.visible, blanks, blank, rfl⟩]
      exact upTo?_eq_some_iff.mpr ⟨ds, figures, rfl⟩
    | fraction isFraction ends =>
      rw [Part.read?, fraction?_eq_some_iff.mpr ⟨_, isFraction, ends, rfl⟩, Option.map_some]
    | mark => rw [List.singleton_append, Part.read?, Rfc3339.skip?_eq_some_iff.mpr rfl, Option.map_some]
    | blanks blank ends => rw [Part.read?, dropWhile_isBlankChar_eq_iff.mpr ⟨ends, _, blank, rfl⟩]

end Pieces

/-! ## Reading a text -/

section Texts

variable {parts : List Part} {cs : List Char} {pieces pieces' : List (List Char)} {b c d d' : Civil}

/-- A format reads exactly the texts that it cuts into pieces. -/
theorem readParts?_eq_some_iff :
    readParts? parts c cs = some d ↔ ∃ pieces, Cuts parts c d pieces ∧ pieces.flatten = cs := by
  induction parts generalizing c cs with
  | nil =>
    simp only [readParts?, Option.ite_none_right_eq_some, List.isEmpty_iff, Option.some.injEq]
    constructor
    · rintro ⟨rfl, rfl⟩
      exact ⟨[], .nil, rfl⟩
    · rintro ⟨_, ⟨⟩, rfl⟩
      exact ⟨rfl, rfl⟩
  | cons p parts ih =>
    simp only [readParts?, Option.bind_eq_bind, Option.bind_eq_some_iff, Prod.exists,
      Part.read?_eq_some_iff, ih]
    constructor
    · rintro ⟨_, _, ⟨piece, takes, rfl⟩, pieces, cuts, rfl⟩
      exact ⟨piece :: pieces, .cons takes cuts, rfl⟩
    · rintro ⟨_, cuts, rfl⟩
      cases cuts with
      | cons takes cuts => exact ⟨_, _, ⟨_, takes, rfl⟩, _, cuts, rfl⟩

/-- A format cuts a text in one way. -/
theorem Cuts.unique (cuts : Cuts parts c d pieces) (cuts' : Cuts parts c d' pieces')
    (same : pieces.flatten = pieces'.flatten) : pieces = pieces' ∧ d = d' := by
  induction cuts generalizing pieces' with
  | nil =>
    cases cuts'
    exact ⟨rfl, rfl⟩
  | @cons p parts b c d piece pieces first later ih =>
    cases cuts' with
    | @cons _ _ _ c' _ piece' pieces' first' later' =>
      rw [List.flatten_cons, List.flatten_cons] at same
      have read := Part.read?_eq_some_iff.mpr ⟨piece, first, rfl⟩
      have read' := Part.read?_eq_some_iff.mpr ⟨piece', first', rfl⟩
      rw [same, read'] at read
      obtain ⟨rfl, behind⟩ := Prod.mk.inj (Option.some.inj read)
      obtain ⟨rfl, rfl⟩ := ih later' behind.symm
      exact ⟨congrArg (· :: pieces) (List.append_cancel_right same), rfl⟩

end Texts

/-! ## Pieces of full width -/

/-- A piece has the width that is usual for its part: four digits for a year, two for any other number,
and one space between date and time. -/
def Part.IsFull : Part → List Char → Prop
  | .year, piece => Numeral 4 (digitsValue piece) piece
  | .fraction, _ => True
  | .mark _, _ => True
  | .blanks, piece => piece = [' ']
  | _, piece => Numeral 2 (digitsValue piece) piece

/-- A format cuts the characters into pieces of full width. -/
def Fits (parts : List Part) (c d : Civil) (cs : List Char) : Prop :=
  ∃ pieces, Cuts parts c d pieces ∧ List.Forall₂ Part.IsFull parts pieces ∧ pieces.flatten = cs

section Full

variable {parts : List Part} {p : Part} {cs rest piece : List Char} {b c d : Civil}

theorem eq_nil_of_blank_of_digit {blanks ds : List Char} (blank : ∀ b ∈ blanks, isBlankChar b)
    (digits : ∀ d ∈ blanks ++ ds, isDigit d) : blanks = [] := by
  cases blanks with
  | nil => rfl
  | cons b blanks =>
    exact absurd (blank b List.mem_cons_self) (not_isBlankChar_of_isDigit (digits b List.mem_cons_self))

theorem figures_of_numeral {width n : Nat} {ds : List Char} (numeral : Numeral width n ds)
    (pos : 0 < width) : Figures width n ds rest := by
  refine ⟨numeral.ne_nil pos, ?_, numeral.length_eq.le, fun short => absurd numeral.length_eq short.ne⟩
  rw [numeral.length_eq]
  exact numeral

/-- A number of full width is taken whatever follows. -/
theorem takes_and_isFull_iff (isNumber : p.isNumber) :
    p.Takes rest b c piece ∧ p.IsFull piece ↔ ∃ n, Numeral 2 n piece ∧ c = p.set b n := by
  have full : p.IsFull piece ↔ Numeral 2 (digitsValue piece) piece := by
    cases p with
    | year | fraction | mark | blanks => cases isNumber
    | month | day | hour | minute | second => exact Iff.rfl
  rw [full]
  constructor
  · rintro ⟨takes, numeral⟩
    cases takes with
    | year | fraction | mark | blanks => cases isNumber
    | number _ blank figures =>
      obtain rfl := eq_nil_of_blank_of_digit blank numeral.digits
      rw [List.nil_append] at numeral ⊢
      rw [figures.numeral.value] at numeral
      exact ⟨_, numeral, rfl⟩
  · rintro ⟨n, numeral, rfl⟩
    have value := numeral.value
    subst value
    have figures : Figures 2 (digitsValue piece) piece rest := figures_of_numeral numeral (by decide)
    exact ⟨@Part.Takes.number _ _ _ _ [] _ isNumber nofun figures, numeral⟩

theorem takes_year_and_isFull_iff :
    Part.Takes rest b .year c piece ∧ Part.year.IsFull piece ↔
      ∃ n : Nat, Numeral 4 n piece ∧ c = { b with year := n } := by
  constructor
  · rintro ⟨takes, numeral⟩
    cases takes with
    | number isNumber => cases isNumber
    | year blank isYear =>
      obtain rfl := eq_nil_of_blank_of_digit blank numeral.digits
      cases isYear with
      | plain figures =>
        have value := figures.numeral.value
        subst value
        exact ⟨_, numeral, rfl⟩
      | before => exact absurd (numeral.digits '-' List.mem_cons_self) (by decide)
      | after => exact absurd (numeral.digits '+' List.mem_cons_self) (by decide)
  · rintro ⟨n, numeral, rfl⟩
    have value := numeral.value
    subst value
    have figures : Figures 4 (digitsValue piece) piece rest := figures_of_numeral numeral (by decide)
    exact ⟨@Part.Takes.year _ _ _ [] _ nofun (.plain figures), numeral⟩

theorem fits_nil : Fits [] c d cs ↔ cs = [] ∧ d = c := by
  constructor
  · rintro ⟨_, ⟨⟩, _, rfl⟩
    exact ⟨rfl, rfl⟩
  · rintro ⟨rfl, rfl⟩
    exact ⟨[], .nil, .nil, rfl⟩

theorem fits_cons :
    Fits (p :: parts) b d cs ↔
      ∃ piece rest c, (p.Takes rest b c piece ∧ p.IsFull piece) ∧ cs = piece ++ rest ∧ Fits parts c d rest := by
  constructor
  · rintro ⟨_, cuts, full, rfl⟩
    cases cuts with
    | cons takes cuts =>
      rcases List.forall₂_cons.mp full with ⟨first, later⟩
      exact ⟨_, _, _, ⟨takes, first⟩, rfl, _, cuts, later, rfl⟩
  · rintro ⟨piece, _, c, ⟨takes, first⟩, rfl, pieces, cuts, later, rfl⟩
    exact ⟨piece :: pieces, .cons takes cuts, .cons first later, rfl⟩

/-! The parts of a format, one at a time. -/

theorem fits_year_cons :
    Fits (.year :: parts) b d cs ↔
      ∃ (n : Nat) (ds rest : List Char),
        Numeral 4 n ds ∧ cs = ds ++ rest ∧ Fits parts { b with year := n } d rest := by
  simp only [fits_cons, takes_year_and_isFull_iff]
  constructor
  · rintro ⟨ds, rest, _, ⟨n, numeral, rfl⟩, rfl, fits⟩
    exact ⟨n, ds, rest, numeral, rfl, fits⟩
  · rintro ⟨n, ds, rest, numeral, rfl, fits⟩
    exact ⟨ds, rest, _, ⟨n, numeral, rfl⟩, rfl, fits⟩

theorem fits_number_cons (isNumber : p.isNumber) :
    Fits (p :: parts) b d cs ↔
      ∃ n ds rest, Numeral 2 n ds ∧ cs = ds ++ rest ∧ Fits parts (p.set b n) d rest := by
  simp only [fits_cons, takes_and_isFull_iff isNumber]
  constructor
  · rintro ⟨ds, rest, _, ⟨n, numeral, rfl⟩, rfl, fits⟩
    exact ⟨n, ds, rest, numeral, rfl, fits⟩
  · rintro ⟨n, ds, rest, numeral, rfl, fits⟩
    exact ⟨ds, rest, _, ⟨n, numeral, rfl⟩, rfl, fits⟩

theorem fits_mark_cons {m : Char} :
    Fits (.mark m :: parts) b d cs ↔ ∃ rest, cs = m :: rest ∧ Fits parts b d rest := by
  rw [fits_cons]
  constructor
  · rintro ⟨_, rest, _, ⟨takes, _⟩, rfl, fits⟩
    cases takes with
    | number isNumber => cases isNumber
    | mark => exact ⟨rest, rfl, fits⟩
  · rintro ⟨rest, rfl, fits⟩
    exact ⟨[m], rest, b, ⟨.mark, trivial⟩, rfl, fits⟩

theorem fits_blanks_cons :
    Fits (.blanks :: parts) b d cs ↔
      ∃ rest, cs = ' ' :: rest ∧ (∀ d ∈ rest.head?, ¬ isBlankChar d) ∧ Fits parts b d rest := by
  rw [fits_cons]
  constructor
  · rintro ⟨_, rest, _, ⟨takes, full⟩, rfl, fits⟩
    cases takes with
    | number isNumber => cases isNumber
    | blanks _ ends =>
      obtain rfl : _ = [' '] := full
      exact ⟨rest, rfl, ends, fits⟩
  · rintro ⟨rest, rfl, ends, fits⟩
    exact ⟨[' '], rest, b, ⟨.blanks (List.forall_mem_singleton.mpr rfl) ends, rfl⟩, rfl, fits⟩

theorem fits_fraction :
    Fits [.fraction] b d cs ↔ ∃ n, Rfc3339.IsFraction n cs ∧ d = { b with nanos := n } := by
  simp only [fits_cons, fits_nil]
  constructor
  · rintro ⟨piece, _, _, ⟨takes, _⟩, rfl, rfl, rfl⟩
    rw [List.append_nil]
    cases takes with
    | number isNumber => cases isNumber
    | fraction isFraction => exact ⟨_, isFraction, rfl⟩
  · rintro ⟨n, isFraction, rfl⟩
    exact ⟨cs, [], _, ⟨.fraction isFraction nofun, trivial⟩, (List.append_nil cs).symm, rfl, rfl⟩

theorem fits_date :
    Fits (dateParts ++ parts) b d cs ↔
      ∃ (year month day : Nat) (date rest : List Char), SpellsDate year month day date ∧
        cs = date ++ rest ∧ Fits parts { b with year := year, month := month, day := day } d rest := by
  simp only [dateParts, List.cons_append, List.nil_append, fits_year_cons, fits_mark_cons,
    @fits_number_cons _ .month _ _ _ rfl, @fits_number_cons _ .day _ _ _ rfl, Part.set]
  constructor
  · rintro ⟨year, yyyy, _, isYear, rfl, _, rfl, month, mo, _, isMonth, rfl, _, rfl, day, dd, rest, isDay, rfl,
      fits⟩
    exact ⟨year, month, day, _, rest, .text isYear isMonth isDay, by simp only [List.append_assoc,
      List.cons_append], fits⟩
  · rintro ⟨year, month, day, _, rest, isDate, rfl, fits⟩
    cases isDate with
    | @text yyyy mo dd isYear isMonth isDay =>
      exact ⟨year, yyyy, _, isYear, by simp only [List.append_assoc, List.cons_append], _, rfl, month, mo, _,
        isMonth, rfl, _, rfl, day, dd, rest, isDay, rfl, fits⟩

theorem fits_clock :
    Fits (clockParts ++ parts) b d cs ↔
      ∃ hour minute clock rest, SpellsMinute hour minute clock ∧ cs = clock ++ rest ∧
        Fits parts { b with hour := hour, minute := minute } d rest := by
  simp only [clockParts, List.cons_append, List.nil_append, fits_mark_cons,
    @fits_number_cons _ .hour _ _ _ rfl, @fits_number_cons _ .minute _ _ _ rfl, Part.set]
  constructor
  · rintro ⟨hour, hh, _, isHour, rfl, _, rfl, minute, mi, rest, isMinute, rfl, fits⟩
    exact ⟨hour, minute, _, rest, .text isHour isMinute, by simp only [List.append_assoc, List.cons_append],
      fits⟩
  · rintro ⟨hour, minute, _, rest, isClock, rfl, fits⟩
    cases isClock with
    | @text hh mi isHour isMinute =>
      exact ⟨hour, hh, _, isHour, by simp only [List.append_assoc, List.cons_append], _, rfl, minute, mi, rest,
        isMinute, rfl, fits⟩

theorem fits_time :
    Fits (clockParts ++ [.mark ':', .second, .fraction]) b d cs ↔
      ∃ hour minute second nanos, SpellsSecond hour minute second nanos cs ∧
        d = { b with hour := hour, minute := minute, second := second, nanos := nanos } := by
  simp only [fits_clock, fits_mark_cons, @fits_number_cons _ .second _ _ _ rfl, Part.set, fits_fraction]
  constructor
  · rintro ⟨hour, minute, clock, _, isClock, rfl, _, rfl, second, ss, _, isSecond, rfl, nanos, isFraction, rfl⟩
    exact ⟨hour, minute, second, nanos, .text isClock isSecond isFraction, rfl⟩
  · rintro ⟨hour, minute, second, nanos, isTime, rfl⟩
    cases isTime with
    | text isClock isSecond isFraction =>
      exact ⟨hour, minute, _, _, isClock, rfl, _, rfl, second, _, _, isSecond, rfl, nanos, isFraction, rfl⟩

theorem head?_of_spellsSecond {hour minute second nanos : Nat}
    (isTime : SpellsSecond hour minute second nanos cs) : ∀ d ∈ cs.head?, ¬ isBlankChar d := by
  have behind := dropWhile_isBlankChar_of_spellsSecond isTime
  exact (dropWhile_isBlankChar_eq_iff.mp behind).1

/-- A text has a usual form exactly if a format cuts it into pieces of full width. -/
theorem spells_iff_exists_fits : Spells d cs ↔ ∃ parts ∈ formats, Fits parts Civil.start d cs := by
  constructor
  · intro spells
    cases spells with
    | second isDate separates isTime =>
      rcases separates with rfl | rfl
      · exact ⟨dateParts ++ .mark 'T' :: (clockParts ++ [.mark ':', .second, .fraction]), by decide,
          fits_date.mpr ⟨_, _, _, _, _, isDate, rfl, fits_mark_cons.mpr
            ⟨_, rfl, fits_time.mpr ⟨_, _, _, _, isTime, rfl⟩⟩⟩⟩
      · exact ⟨dateParts ++ .blanks :: (clockParts ++ [.mark ':', .second, .fraction]), by decide,
          fits_date.mpr ⟨_, _, _, _, _, isDate, rfl, fits_blanks_cons.mpr
            ⟨_, rfl, head?_of_spellsSecond isTime, fits_time.mpr ⟨_, _, _, _, isTime, rfl⟩⟩⟩⟩
    | minute isDate isClock =>
      exact ⟨dateParts ++ .mark 'T' :: (clockParts ++ []), by decide,
        fits_date.mpr ⟨_, _, _, _, _, isDate, rfl, fits_mark_cons.mpr ⟨_, rfl,
          fits_clock.mpr ⟨_, _, _, _, isClock, (List.append_nil _).symm, fits_nil.mpr ⟨rfl, rfl⟩⟩⟩⟩⟩
    | date isDate =>
      exact ⟨dateParts ++ [], by decide, fits_date.mpr
        ⟨_, _, _, _, _, isDate, (List.append_nil cs).symm, fits_nil.mpr ⟨rfl, rfl⟩⟩⟩
  · rintro ⟨parts, known, fits⟩
    simp only [formats, List.mem_cons, List.not_mem_nil, or_false] at known
    rcases known with rfl | rfl | rfl | rfl
    · rcases fits_date.mp fits with ⟨_, _, _, _, _, isDate, rfl, marked⟩
      rcases fits_mark_cons.mp marked with ⟨_, rfl, timed⟩
      rcases fits_time.mp timed with ⟨_, _, _, _, isTime, rfl⟩
      exact .second isDate (.inl rfl) isTime
    · rcases fits_date.mp fits with ⟨_, _, _, _, _, isDate, rfl, marked⟩
      rcases fits_blanks_cons.mp marked with ⟨_, rfl, _, timed⟩
      rcases fits_time.mp timed with ⟨_, _, _, _, isTime, rfl⟩
      exact .second isDate (.inr rfl) isTime
    · rcases fits_date.mp fits with ⟨_, _, _, _, _, isDate, rfl, marked⟩
      rcases fits_mark_cons.mp marked with ⟨_, rfl, timed⟩
      rcases fits_clock.mp timed with ⟨_, _, _, _, isClock, rfl, ended⟩
      rcases fits_nil.mp ended with ⟨rfl, rfl⟩
      rw [List.append_nil]
      exact .minute isDate isClock
    · rcases fits_date.mp fits with ⟨_, _, _, _, _, isDate, rfl, ended⟩
      rcases fits_nil.mp ended with ⟨rfl, rfl⟩
      rw [List.append_nil]
      exact .date isDate

/-- Of the texts that a format reads, those of a usual form are the ones with pieces of full width. -/
theorem spells_iff_forall_isFull {pieces : List (List Char)} (known : parts ∈ formats)
    (cuts : Cuts parts Civil.start d pieces) :
    (∃ c, Spells c pieces.flatten) ↔ List.Forall₂ Part.IsFull parts pieces := by
  constructor
  · rintro ⟨c, spells⟩
    obtain ⟨parts', known', pieces', cuts', full, same⟩ := spells_iff_exists_fits.mp spells
    obtain rfl := format_unique known' known (readParts?_eq_some_iff.mpr ⟨pieces', cuts', same⟩)
      (readParts?_eq_some_iff.mpr ⟨pieces, cuts, rfl⟩)
    obtain ⟨rfl, _⟩ := cuts'.unique cuts same
    exact full
  · intro full
    exact ⟨d, spells_iff_exists_fits.mpr ⟨parts, known, pieces, cuts, full, rfl⟩⟩

theorem length_of_spellsDate {year month day : Nat} (isDate : SpellsDate year month day cs) :
    cs.length = 10 := by
  cases isDate with
  | text isYear isMonth isDay =>
    simp only [List.length_append, List.length_cons, isYear.length_eq, isMonth.length_eq, isDay.length_eq]

/-- Every usual form begins with a date of ten characters. -/
theorem ten_le_length_of_spells (spells : Spells c cs) : 10 ≤ cs.length := by
  cases spells with
  | second isDate | minute isDate =>
    rw [List.length_append, length_of_spellsDate isDate]
    omega
  | date isDate => exact (length_of_spellsDate isDate).ge

/-- The civil times that a text without an offset can be read as. -/
theorem read?_eq_some_iff :
    read? cs = some d ↔
      ∃ parts ∈ formats, ∃ pieces, Cuts parts Civil.start d pieces ∧ pieces.flatten = cs ∧ d.isValid := by
  constructor
  · intro read
    obtain ⟨parts, known, found⟩ := List.exists_of_findSome?_eq_some read
    obtain ⟨found, valid⟩ := Option.filter_eq_some_iff.mp found
    obtain ⟨pieces, cuts, same⟩ := readParts?_eq_some_iff.mp found
    exact ⟨parts, known, pieces, cuts, same, valid⟩
  · rintro ⟨parts, known, pieces, cuts, same, valid⟩
    rw [read?_of_readParts? known (readParts?_eq_some_iff.mpr ⟨pieces, cuts, same⟩)]
    exact Option.filter_eq_some_iff.mpr ⟨rfl, valid⟩

end Full

end TypedFilters.LocalTime
