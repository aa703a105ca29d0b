import Mathlib.Algebra.Field.Rat
import Mathlib.Data.Nat.Cast.Field
import Mathlib.Tactic.FieldSimp
import TypedFilters.Proofs.Text.Numerals

/-!
# The numbers that decimal literals spell

What a text spells as a decimal number is an exact rational number, and follows from the form of the
text alone (`Decimal.Spells`): a sign or none, digits with a point behind, among or before them or
without one, and an exponent or none. A text is read exactly if it spells a number, and what is read of
it denotes that number (`spells_iff`); a text spells one number at most (`Spells.unique`).
-/

namespace TypedFilters.Decimal

open Text

variable {negative : Bool} {cs ds rest sign mantissa exponent whole fraction : List Char}

/-! ## The form of a literal -/

/-- The factor that a sign stands for. -/
def signFactor (negative : Bool) : ℤ :=
  if negative then -1 else 1

/-- The exact number that a literal denotes. -/
def toRat (d : Decimal) : ℚ :=
  signFactor d.negative * d.coefficient * 10 ^ d.exponent

/-- An optional sign. -/
inductive IsSign : Bool → List Char → Prop
  | none : IsSign false []
  | plus : IsSign false ['+']
  | minus : IsSign true ['-']

/-- Digits, of which there is one at least. -/
structure AreDigits (ds : List Char) : Prop where
  ne_nil : ds ≠ []
  all : ∀ d ∈ ds, isDigit d

/-- The digits before the point, the digits behind it, and a text that is made of them. -/
inductive IsMantissa : List Char → List Char → List Char → Prop
  | whole {ds : List Char} (before : AreDigits ds) : IsMantissa ds [] ds
  | pointed {ds fs : List Char} (before : AreDigits ds) (behind : ∀ d ∈ fs, isDigit d) :
      IsMantissa ds fs (ds ++ '.' :: fs)
  | fraction {fs : List Char} (behind : AreDigits fs) : IsMantissa [] fs ('.' :: fs)

/-- An optional exponent. -/
inductive IsExponent : ℤ → List Char → Prop
  | none : IsExponent 0 []
  | written {letter : Char} {negative : Bool} {sign ds : List Char} (mark : letter = 'e' ∨ letter = 'E')
      (signed : IsSign negative sign) (digits : AreDigits ds) :
      IsExponent (signFactor negative * digitsValue ds) (letter :: (sign ++ ds))

/-- The characters spell a rational number. -/
inductive Spells : ℚ → List Char → Prop
  | decimal {negative : Bool} {whole fraction : List Char} {e : ℤ} {sign mantissa exponent : List Char}
      (signed : IsSign negative sign) (digits : IsMantissa whole fraction mantissa)
      (scaled : IsExponent e exponent) :
      Spells (signFactor negative * (digitsValue whole + digitsValue fraction / 10 ^ fraction.length) *
        10 ^ e) (sign ++ (mantissa ++ exponent))

theorem signFactor_mul (negative : Bool) (n : ℤ) :
    signFactor negative * n = if negative then -n else n := by
  cases negative
  · exact one_mul n
  · exact neg_one_mul n

/-! ## Reading the parts -/

theorem splitSign_eq (split : splitSign cs = (negative, rest)) :
    ∃ sign, IsSign negative sign ∧ cs = sign ++ rest := by
  unfold splitSign at split
  split at split <;> cases split
  · exact ⟨['-'], .minus, rfl⟩
  · exact ⟨['+'], .plus, rfl⟩
  · exact ⟨[], .none, rfl⟩

/-- A sign is taken from what begins with none. -/
theorem splitSign_append (signed : IsSign negative sign)
    (unsigned : ∀ c ∈ rest.head?, c ≠ '+' ∧ c ≠ '-') : splitSign (sign ++ rest) = (negative, rest) := by
  cases signed with
  | plus | minus => rfl
  | none =>
    rw [List.nil_append]
    unfold splitSign
    split
    · exact absurd rfl (unsigned '-' rfl).2
    · exact absurd rfl (unsigned '+' rfl).1
    · rfl

theorem ne_sign_of_isDigit {c : Char} (digit : isDigit c) : c ≠ '+' ∧ c ≠ '-' := by
  constructor <;> rintro rfl <;> cases digit

theorem AreDigits.ne_sign (digits : AreDigits ds) : ∀ c ∈ ds.head?, c ≠ '+' ∧ c ≠ '-' :=
  fun _ first => ne_sign_of_isDigit (digits.all _ (List.mem_of_mem_head? first))

theorem exponent?_eq_some_iff {e : ℤ} : exponent? cs = some e ↔ IsExponent e cs := by
  constructor
  · intro read
    unfold exponent? at read
    split at read
    · cases read
      exact .none
    · next letter after =>
      split at read
      · next mark =>
        cases splitsSign : splitSign after with
        | mk negative behind =>
        cases splitsDigits : splitDigits behind with
        | mk digits last =>
        obtain ⟨sign, signed, rfl⟩ := splitSign_eq splitsSign
        obtain ⟨rfl, all, _⟩ := splitDigits_eq splitsDigits
        simp only [splitsSign, splitsDigits] at read
        split at read
        · cases read
        · next complete =>
          rw [Bool.or_eq_true, Bool.not_eq_true', not_or, List.isEmpty_iff, Bool.not_eq_false,
            List.isEmpty_iff] at complete
          rcases complete with ⟨some, rfl⟩
          rw [Option.some.injEq, ← signFactor_mul] at read
          rw [← read, List.append_nil]
          exact .written mark signed ⟨some, all⟩
      · cases read
  · intro isExponent
    cases isExponent with
    | none => rfl
    | @written letter negative sign ds mark signed digits =>
      have splitsSign := splitSign_append signed digits.ne_sign
      have splitsDigits := @splitDigits_append_of_ends ds [] digits.all nofun
      rw [List.append_nil] at splitsDigits
      have some : ds.isEmpty = false := List.isEmpty_eq_false_iff.mpr digits.ne_nil
      simp only [exponent?, if_pos mark, splitsSign, splitsDigits, some, List.isEmpty_nil, Bool.not_true,
        Bool.or_self, Bool.false_eq_true, if_false, signFactor_mul]

/-- Nothing that can follow a mantissa could belong to it. -/
theorem IsExponent.ends {e : ℤ} (isExponent : IsExponent e exponent) :
    ∀ c ∈ exponent.head?, ¬ isDigit c ∧ c ≠ '.' := by
  intro c first
  cases isExponent with
  | none => cases first
  | written mark =>
    cases first
    rcases mark with rfl | rfl <;> exact ⟨by decide, by decide⟩

theorem IsMantissa.ne_sign (digits : IsMantissa whole fraction mantissa) (rest : List Char) :
    ∀ c ∈ (mantissa ++ rest).head?, c ≠ '+' ∧ c ≠ '-' := by
  have behind {ds : List Char} (before : AreDigits ds) (rest : List Char) :
      ∀ c ∈ (ds ++ rest).head?, c ≠ '+' ∧ c ≠ '-' := by
    rw [List.head?_append_of_ne_nil _ before.ne_nil]
    exact before.ne_sign
  cases digits with
  | whole before => exact behind before rest
  | pointed before =>
    rw [List.append_assoc]
    exact behind before _
  | fraction =>
    intro c first
    cases first
    exact ⟨by decide, by decide⟩

theorem AreDigits.exists_isDigit (digits : AreDigits ds) : ∃ c ∈ ds, isDigit c := by
  obtain ⟨c, mem⟩ := List.exists_mem_of_ne_nil ds digits.ne_nil
  exact ⟨c, mem, digits.all c mem⟩

theorem IsMantissa.exists_isDigit (digits : IsMantissa whole fraction mantissa) :
    ∃ c ∈ mantissa, isDigit c := by
  cases digits with
  | whole before => exact before.exists_isDigit
  | pointed before =>
    obtain ⟨c, mem, digit⟩ := before.exists_isDigit
    exact ⟨c, List.mem_append_left _ mem, digit⟩
  | fraction behind =>
    obtain ⟨c, mem, digit⟩ := behind.exists_isDigit
    exact ⟨c, List.mem_cons_of_mem _ mem, digit⟩

/-- The digits before the point and behind it are found in a mantissa, whatever may follow it. -/
theorem IsMantissa.splitDigits (digits : IsMantissa whole fraction mantissa)
    (ends : ∀ c ∈ rest.head?, ¬ isDigit c ∧ c ≠ '.') :
    ∃ after, Decimal.splitDigits (mantissa ++ rest) = (whole, after) ∧
      splitFraction after = (fraction, rest) := by
  have last : ∀ c ∈ rest.head?, ¬ isDigit c := fun c first => (ends c first).1
  have point : ∀ c ∈ ('.' :: (fraction ++ rest)).head?, ¬ isDigit c := by
    intro c first
    cases first
    decide
  cases digits with
  | whole before =>
    refine ⟨rest, splitDigits_append_of_ends before.all last, ?_⟩
    unfold splitFraction
    split
    · exact absurd rfl (ends '.' rfl).2
    · rfl
  | pointed before behind =>
    rw [List.append_assoc, List.cons_append]
    exact ⟨_, splitDigits_append_of_ends before.all point, splitDigits_append_of_ends behind last⟩
  | fraction behind =>
    exact ⟨_, @splitDigits_append_of_ends [] _ nofun point,
      splitDigits_append_of_ends behind.all last⟩

/-- Digits, and then perhaps a point with digits, are a mantissa if there is a digit among them. -/
theorem exists_isMantissa {after : List Char} (before : Decimal.splitDigits cs = (whole, after))
    (behind : splitFraction after = (fraction, rest)) (some : ¬ (whole = [] ∧ fraction = [])) :
    ∃ mantissa, IsMantissa whole fraction mantissa ∧ cs = mantissa ++ rest := by
  obtain ⟨rfl, all, _⟩ := splitDigits_eq before
  unfold splitFraction at behind
  split at behind
  · next after =>
    obtain ⟨rfl, behind, _⟩ := splitDigits_eq behind
    by_cases none : whole = []
    · subst none
      exact ⟨_, .fraction ⟨fun empty => some ⟨rfl, empty⟩, behind⟩, rfl⟩
    · refine ⟨_, .pointed ⟨none, all⟩ behind, ?_⟩
      rw [List.append_assoc, List.cons_append]
  · cases behind
    exact ⟨whole, .whole ⟨fun empty => some ⟨empty, rfl⟩, all⟩, rfl⟩

/-! ## Reading a literal -/

/-- The digits behind the point count for as many powers of ten less. -/
theorem toRat_mk (negative : Bool) (whole fraction : List Char) (e : ℤ) :
    toRat ⟨negative, digitsValue (whole ++ fraction), e - fraction.length⟩ =
      signFactor negative * (digitsValue whole + digitsValue fraction / 10 ^ fraction.length) *
        10 ^ e := by
  have ten : (10 : ℚ) ≠ 0 := by norm_num
  rw [toRat, digitsValue_append, zpow_sub₀ ten, zpow_natCast]
  push_cast
  field_simp

/-- What is read of a literal: its sign, all its digits as one number, and the exponent less the number of
digits behind the point. -/
theorem read?_append {e : ℤ} (signed : IsSign negative sign)
    (digits : IsMantissa whole fraction mantissa) (scaled : IsExponent e exponent) :
    read? (sign ++ (mantissa ++ exponent)) =
      some ⟨negative, digitsValue (whole ++ fraction), e - fraction.length⟩ := by
  have splitsSign := splitSign_append signed (digits.ne_sign exponent)
  obtain ⟨after, splitsDigits, splitsFraction⟩ := digits.splitDigits scaled.ends
  have some : (whole.isEmpty && fraction.isEmpty) = false := by
    cases digits with
    | whole before | pointed before => simp [before.ne_nil]
    | fraction behind => simp [behind.ne_nil]
  simp only [read?, splitsSign, splitsDigits, splitsFraction, some, Bool.false_eq_true, if_false,
    exponent?_eq_some_iff.mpr scaled, Option.map_some]

theorem exists_read?_of_spells {x : ℚ} (spells : Spells x cs) :
    ∃ d, read? cs = some d ∧ d.toRat = x := by
  cases spells with
  | decimal signed digits scaled => exact ⟨_, read?_append signed digits scaled, toRat_mk _ _ _ _⟩

theorem spells_of_read? {d : Decimal} (read : read? cs = some d) : Spells d.toRat cs := by
  cases splitsSign : splitSign cs with
  | mk negative unsigned =>
  cases splitsDigits : Decimal.splitDigits unsigned with
  | mk whole after =>
  cases splitsFraction : splitFraction after with
  | mk fraction last =>
  simp only [read?, splitsSign, splitsDigits, splitsFraction] at read
  split at read
  · cases read
  · next some =>
    obtain ⟨e, scaled, rfl⟩ := Option.map_eq_some_iff.mp read
    rw [Bool.and_eq_true, List.isEmpty_iff, List.isEmpty_iff] at some
    obtain ⟨sign, signed, rfl⟩ := splitSign_eq splitsSign
    obtain ⟨mantissa, digits, rfl⟩ := exists_isMantissa splitsDigits splitsFraction some
    rw [toRat_mk]
    exact .decimal signed digits (exponent?_eq_some_iff.mp scaled)

/-- The reader takes exactly the texts that spell a number, and what it answers denotes the number. -/
theorem spells_iff {x : ℚ} : Spells x cs ↔ ∃ d, read? cs = some d ∧ d.toRat = x := by
  refine ⟨exists_read?_of_spells, ?_⟩
  rintro ⟨d, read, rfl⟩
  exact spells_of_read? read

theorem Spells.unique {x y : ℚ} (left : Spells x cs) (right : Spells y cs) : x = y := by
  obtain ⟨d, read, rfl⟩ := spells_iff.mp left
  obtain ⟨d', read', rfl⟩ := spells_iff.mp right
  rw [Option.some.inj (read.symm.trans read')]

/-- There is a digit in every text that spells a number. -/
theorem Spells.exists_isDigit {x : ℚ} (spells : Spells x cs) : ∃ c ∈ cs, isDigit c := by
  cases spells with
  | decimal signed digits scaled =>
    obtain ⟨c, mem, digit⟩ := digits.exists_isDigit
    exact ⟨c, List.mem_append_right _ (List.mem_append_left _ mem), digit⟩

/-- The characters of a literal besides digits. -/
def marks : List Char :=
  ['+', '-', '.', 'e', 'E']

theorem IsSign.mem_marks (signed : IsSign negative sign) : ∀ c ∈ sign, c ∈ marks := by
  cases signed with
  | none => exact List.forall_mem_nil _
  | plus => exact List.forall_mem_singleton.mpr List.mem_cons_self
  | minus => exact List.forall_mem_singleton.mpr (List.mem_cons_of_mem _ List.mem_cons_self)

theorem IsMantissa.mem (digits : IsMantissa whole fraction mantissa) :
    ∀ c ∈ mantissa, isDigit c ∨ c = '.' := by
  cases digits with
  | whole before => exact fun c mem => .inl (before.all c mem)
  | pointed before behind =>
    refine List.forall_mem_append.mpr ⟨fun c mem => .inl (before.all c mem), ?_⟩
    exact List.forall_mem_cons.mpr ⟨.inr rfl, fun c mem => .inl (behind c mem)⟩
  | fraction behind =>
    exact List.forall_mem_cons.mpr ⟨.inr rfl, fun c mem => .inl (behind.all c mem)⟩

theorem IsExponent.mem {e : ℤ} (isExponent : IsExponent e exponent) :
    ∀ c ∈ exponent, isDigit c ∨ c ∈ marks := by
  cases isExponent with
  | none => exact List.forall_mem_nil _
  | written mark signed digits =>
    refine List.forall_mem_cons.mpr ⟨.inr ?_, List.forall_mem_append.mpr ⟨?_, ?_⟩⟩
    · rcases mark with rfl | rfl <;> decide
    · exact fun c mem => .inr (signed.mem_marks c mem)
    · exact fun c mem => .inl (digits.all c mem)

/-- There is no space in a text that spells a number. -/
theorem Spells.space_not_mem {x : ℚ} (spells : Spells x cs) : ' ' ∉ cs := by
  have neither : ¬ (isDigit ' ' ∨ ' ' ∈ marks) := by decide
  intro mem
  cases spells with
  | decimal signed digits scaled =>
    simp only [List.mem_append] at mem
    rcases mem with mem | mem | mem
    · exact neither (.inr (signed.mem_marks _ mem))
    · exact neither ((digits.mem _ mem).imp_right fun point => nomatch point)
    · exact neither (scaled.mem _ mem)

/-- A text that spells a number ends in a digit or a point. -/
theorem Spells.last {x : ℚ} (spells : Spells x cs) : ∀ c ∈ cs.getLast?, isDigit c ∨ c = '.' := by
  intro c last
  cases spells with
  | @decimal _ _ _ _ sign mantissa _ _ digits scaled =>
    cases scaled with
    | none =>
      obtain ⟨_, mem, _⟩ := digits.exists_isDigit
      rw [List.append_nil, List.getLast?_append_of_ne_nil _ (List.ne_nil_of_mem mem)] at last
      exact digits.mem c (List.mem_of_getLast? last)
    | @written letter _ expSign ds _ _ expDigits =>
      have text : sign ++ (mantissa ++ letter :: (expSign ++ ds)) =
          (sign ++ (mantissa ++ letter :: expSign)) ++ ds := by
        simp only [List.append_assoc, List.cons_append]
      rw [text, List.getLast?_append_of_ne_nil _ expDigits.ne_nil] at last
      exact .inl (expDigits.all c (List.mem_of_getLast? last))

end TypedFilters.Decimal
