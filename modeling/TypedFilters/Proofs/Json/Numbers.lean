import TypedFilters.Proofs.Decimal.Rounding
import TypedFilters.Proofs.Json.Integers
import TypedFilters.Proofs.Text.Numerals

/-!
# Reading numbers

Whatever a number is read as, it is an integer of up to 64 bits or a finite double, and it is read alike in
front of anything that does not go on with it (`number_extends`). An integer is only read from its own
decimal text (`eq_toString_of_number`); any other literal is a double.
-/

namespace TypedFilters

namespace Json

open Text

/-- A number that is read: an integer of up to 64 bits, or a finite double. -/
def Number.InRange : Number → Prop
  | integer value => -2 ^ 63 ≤ value ∧ value < 2 ^ 64
  | float value => Binary64.IsFinite value.units

/-- What a reader of numbers answers is in range, and it answers the same in front of anything that does not
go on with the number. -/
def Extends (reader : Reader Number) : Prop :=
  ∀ {cs after : List Char} {n : Number}, reader cs = .ok (n, after) →
    n.InRange ∧ ∀ {rest : List Char}, EndsNumber rest → reader (cs ++ rest) = .ok (n, after ++ rest)

section Digits

variable {cs after rest : List Char} {limit m n taken t : Nat}

theorem EndsNumber.startsWithDigit_append (ends : EndsNumber rest) (cs : List Char) :
    startsWithDigit (cs ++ rest) = startsWithDigit cs := by
  cases cs with
  | nil => exact Bool.eq_false_iff.mpr ends.not_startsWithDigit
  | cons c cs => rfl

theorem takeDigits_extend (ends : EndsNumber rest) (take : takeDigits limit n taken cs = (m, t, after)) :
    takeDigits limit n taken (cs ++ rest) = (m, t, after ++ rest) := by
  induction cs generalizing n taken with
  | nil =>
    cases take
    cases rest with
    | nil => rfl
    | cons c rest =>
      have other : digit? c = none := Option.not_isSome_iff_eq_none.mp (ends c rfl).1
      rw [List.nil_append, takeDigits, other]
  | cons c cs ih =>
    rw [List.cons_append]
    unfold takeDigits at take ⊢
    split at take
    · split at take
      · next above =>
        cases take
        exact if_pos above
      · next within =>
        rw [if_neg within]
        exact ih take
    · cases take
      rfl

theorem takeDigits_le (small : n ≤ limit) (take : takeDigits limit n taken cs = (m, t, after)) : m ≤ limit := by
  induction cs generalizing n taken with
  | nil =>
    cases take
    exact small
  | cons c cs ih =>
    unfold takeDigits at take
    split at take
    · split at take
      · cases take
        exact small
      · next within => exact ih (Nat.le_of_not_lt within) take
    · cases take
      exact small

theorem passDigits_extend {passed : Nat} (ends : EndsNumber rest) (pass : passDigits cs = (passed, after)) :
    passDigits (cs ++ rest) = (passed, after ++ rest) := by
  cases split : Decimal.splitDigits cs with
  | mk digits behind =>
    have passes : passDigits cs = (digits.length, behind) := by rw [passDigits, ← Decimal.splitDigits, split]
    rw [passes] at pass
    cases pass
    obtain ⟨rfl, all, stops⟩ := splitDigits_eq split
    have stopsHere : ∀ c ∈ (after ++ rest).head?, ¬ isDigit c := by
      cases after with
      | nil => exact fun c first => (ends c first).1
      | cons c after => exact stops
    have splits := splitDigits_append_of_ends all stopsHere
    rw [List.append_assoc, passDigits, ← Decimal.splitDigits, splits]

end Digits

/-! ## The parts of a number -/

section Parts

variable {negative : Bool} {significand : Nat}

theorem extends_scaled (small : significand ≤ maxSignificand) (exponent : ℤ) :
    Extends (scaled negative significand exponent) := by
  intro cs after n read
  unfold scaled at read ⊢
  split at read
  · next units found =>
    cases read
    exact ⟨Binary64.isFinite_of_scaled? (small.trans (by decide)) found, fun _ => rfl⟩
  · cases read

/-- An exponent part after its sign. -/
def exponentDigits (negative : Bool) (significand : Nat) (exponent : ℤ) (down : Bool) : Reader Number
  | [] => failHere .endInValue []
  | c :: rest =>
    if isDigit c then
      let (written, _, rest) := takeDigits maxExponent 0 0 (c :: rest)
      if startsWithDigit rest then
        if significand ≠ 0 ∧ !down then failHere .numberOutOfRange (rest.drop 1)
        else .ok (float negative 0, (passDigits rest).2)
      else
        let total := if down then exponent - written else exponent + written
        scaled negative significand (clampExponent total) rest
    else failNext .invalidNumber (c :: rest)

/-- An exponent part with its sign, if it has one. -/
theorem exponentPart_cons (exponent : ℤ) (c : Char) (cs : List Char) :
    exponentPart negative significand exponent (c :: cs) =
      if c = '+' then exponentDigits negative significand exponent false cs
      else if c = '-' then exponentDigits negative significand exponent true cs
      else exponentDigits negative significand exponent false (c :: cs) := by
  by_cases plus : c = '+'
  · subst plus
    cases cs <;> rfl
  · by_cases minus : c = '-'
    · subst minus
      cases cs <;> rfl
    · rw [if_neg plus, if_neg minus, exponentPart]
      · rfl
      · rintro _ ⟨⟩
        exact plus rfl
      · rintro _ ⟨⟩
        exact minus rfl

theorem extends_exponentDigits (small : significand ≤ maxSignificand) (exponent : ℤ) (down : Bool) :
    Extends (exponentDigits negative significand exponent down) := by
  intro cs after n read
  cases cs with
  | nil => cases read
  | cons c cs =>
    rcases take : takeDigits maxExponent 0 0 (c :: cs) with ⟨written, taken, behind⟩
    simp only [exponentDigits, take] at read
    simp only [List.cons_append, exponentDigits]
    split at read
    · next digit =>
      split at read
      · next long =>
        -- More digits than an exponent can have: too large, or as small as to leave nothing.
        split at read
        · cases read
        · next zero =>
          rcases pass : passDigits behind with ⟨passed, last⟩
          rw [pass] at read
          cases read
          refine ⟨Binary64.isFinite_zero, fun ends => ?_⟩
          have extended := takeDigits_extend ends take
          rw [List.cons_append] at extended
          simp only [extended, ends.startsWithDigit_append, if_pos digit, if_pos long, if_neg zero,
            passDigits_extend ends pass]
      · next short =>
        obtain ⟨inRange, more⟩ := extends_scaled small _ read
        refine ⟨inRange, fun ends => ?_⟩
        have extended := takeDigits_extend ends take
        rw [List.cons_append] at extended
        simp only [extended, ends.startsWithDigit_append, if_pos digit, if_neg short]
        exact more ends
    · cases read

theorem extends_exponentPart (small : significand ≤ maxSignificand) (exponent : ℤ) :
    Extends (exponentPart negative significand exponent) := by
  intro cs after n read
  cases cs with
  | nil => cases read
  | cons c cs =>
    rw [exponentPart_cons] at read
    simp only [List.cons_append, exponentPart_cons]
    split at read
    · next plus =>
      simp only [if_pos plus]
      exact extends_exponentDigits small exponent false read
    · next plus =>
      split at read
      · next minus =>
        simp only [if_neg plus, if_pos minus]
        exact extends_exponentDigits small exponent true read
      · next minus =>
        simp only [if_neg plus, if_neg minus]
        exact extends_exponentDigits small exponent false read

theorem extends_afterDigits (small : significand ≤ maxSignificand) (exponent : ℤ) :
    Extends (afterDigits negative significand exponent) := by
  intro cs after n read
  cases cs with
  | nil =>
    obtain ⟨inRange, more⟩ := extends_scaled small exponent read
    refine ⟨inRange, fun {rest} ends => ?_⟩
    have scaled := more ends
    cases rest with
    | nil => exact scaled
    | cons c rest =>
      obtain ⟨_, _, letter, capital⟩ := ends c rfl
      rw [List.nil_append, afterDigits, if_neg (not_or.mpr ⟨letter, capital⟩)]
      exact scaled
  | cons c cs =>
    rw [afterDigits] at read
    split at read
    · next mark =>
      obtain ⟨inRange, more⟩ := extends_exponentPart small exponent read
      refine ⟨inRange, fun ends => ?_⟩
      rw [List.cons_append, afterDigits, if_pos mark]
      exact more ends
    · next other =>
      obtain ⟨inRange, more⟩ := extends_scaled small exponent read
      refine ⟨inRange, fun ends => ?_⟩
      rw [List.cons_append, afterDigits, if_neg other]
      exact more ends

theorem extends_fractionPart (small : significand ≤ maxSignificand) (exponent : ℤ) :
    Extends (fractionPart negative significand exponent) := by
  intro cs after n read
  rcases take : takeDigits maxSignificand significand 0 cs with ⟨significand', taken, behind⟩
  have small' := takeDigits_le small take
  simp only [fractionPart, take] at read
  simp only [fractionPart]
  split at read
  · next digit =>
    rcases pass : passDigits behind with ⟨passed, last⟩
    rw [pass] at read
    obtain ⟨inRange, more⟩ := extends_afterDigits small' _ read
    refine ⟨inRange, fun ends => ?_⟩
    simp only [takeDigits_extend ends take, ends.startsWithDigit_append, if_pos digit,
      passDigits_extend ends pass]
    exact more ends
  · next noDigit =>
    split at read
    · split at read <;> cases read
    · next some =>
      obtain ⟨inRange, more⟩ := extends_afterDigits small' _ read
      refine ⟨inRange, fun ends => ?_⟩
      simp only [takeDigits_extend ends take, ends.startsWithDigit_append, if_neg noDigit, if_neg some]
      exact more ends

theorem inRange_integer (small : significand ≤ maxSignificand) : (integer negative significand).InRange := by
  have greatest : maxSignificand = 2 ^ 64 - 1 := rfl
  unfold integer
  split
  · exact ⟨by omega, by omega⟩
  · split
    · exact Binary64.isFinite_natUnits (by omega)
    · next other =>
      have least : Nat.pow 2 63 = 2 ^ 63 := rfl
      exact ⟨by omega, by omega⟩

/-- What becomes of the digits before the point if the number ends behind them. -/
def wholeEnd (negative : Bool) (significand passed : Nat) : Reader Number := fun rest =>
  if passed = 0 then .ok (integer negative significand, rest) else scaled negative significand passed rest

theorem afterWhole_cons (passed : Nat) (c : Char) (cs : List Char) :
    afterWhole negative significand passed (c :: cs) =
      if c = '.' then fractionPart negative significand passed cs
      else if c = 'e' ∨ c = 'E' then exponentPart negative significand passed cs
      else wholeEnd negative significand passed (c :: cs) := by
  by_cases point : c = '.'
  · subst point
    rfl
  · rw [if_neg point, afterWhole]
    · rfl
    · exact point

theorem afterWhole_eq_wholeEnd {rest : List Char} (ends : EndsNumber rest) (passed : Nat) :
    afterWhole negative significand passed rest = wholeEnd negative significand passed rest := by
  cases rest with
  | nil => rfl
  | cons c rest =>
    obtain ⟨_, point, letter, capital⟩ := ends c rfl
    rw [afterWhole_cons, if_neg point, if_neg (not_or.mpr ⟨letter, capital⟩)]

theorem extends_wholeEnd (small : significand ≤ maxSignificand) (passed : Nat) :
    Extends (wholeEnd negative significand passed) := by
  intro cs after n read
  unfold wholeEnd at read ⊢
  by_cases whole : passed = 0
  · rw [if_pos whole] at read
    cases read
    exact ⟨inRange_integer small, fun _ => if_pos whole⟩
  · rw [if_neg whole] at read
    obtain ⟨inRange, more⟩ := extends_scaled small passed read
    exact ⟨inRange, fun ends => (if_neg whole).trans (more ends)⟩

theorem extends_afterWhole (small : significand ≤ maxSignificand) (passed : Nat) :
    Extends (afterWhole negative significand passed) := by
  intro cs after n read
  cases cs with
  | nil =>
    obtain ⟨inRange, more⟩ := extends_wholeEnd small passed read
    exact ⟨inRange, fun ends => (afterWhole_eq_wholeEnd ends passed).trans (more ends)⟩
  | cons c cs =>
    simp only [List.cons_append, afterWhole_cons] at read ⊢
    by_cases point : c = '.'
    · simp only [if_pos point] at read ⊢
      exact extends_fractionPart small passed read
    · simp only [if_neg point] at read ⊢
      by_cases mark : c = 'e' ∨ c = 'E'
      · simp only [if_pos mark] at read ⊢
        exact extends_exponentPart small passed read
      · simp only [if_neg mark] at read ⊢
        exact extends_wholeEnd small passed read

theorem extends_unsigned : Extends (unsigned negative) := by
  intro cs after n read
  cases cs with
  | nil => cases read
  | cons c cs =>
    by_cases zero : c = '0'
    · subst zero
      rw [unsigned] at read
      split at read
      · cases read
      · next alone =>
        obtain ⟨inRange, more⟩ := extends_afterWhole (Nat.zero_le _) 0 read
        refine ⟨inRange, fun ends => ?_⟩
        rw [List.cons_append, unsigned, ends.startsWithDigit_append, if_neg alone]
        exact more ends
    · rw [unsigned] at read
      · split at read
        · next digit =>
          rcases take : takeDigits maxSignificand 0 0 (c :: cs) with ⟨significand, taken, behind⟩
          rcases pass : passDigits behind with ⟨passed, last⟩
          have small := takeDigits_le (Nat.zero_le _) take
          simp only [take, pass] at read
          obtain ⟨inRange, more⟩ := extends_afterWhole small passed read
          refine ⟨inRange, fun ends => ?_⟩
          have extended := takeDigits_extend ends take
          rw [List.cons_append] at extended ⊢
          rw [unsigned, if_pos digit, extended]
          · simp only [passDigits_extend ends pass]
            exact more ends
          · exact zero
        · cases read
      · exact zero

/-- A number is in range, and is read alike in front of anything that does not go on with it. -/
theorem number_extends : Extends number := by
  intro cs after n read
  cases cs with
  | nil => cases read
  | cons c cs =>
    by_cases minus : c = '-'
    · subst minus
      exact extends_unsigned read
    · have noSign (cs : List Char) : number (c :: cs) = unsigned false (c :: cs) := by
        rw [number]
        rintro _ ⟨⟩
        exact minus rfl
      rw [noSign] at read
      simp only [List.cons_append, noSign]
      exact extends_unsigned read

/-- A number begins with a minus or a digit. -/
theorem exists_eq_cons_of_number {cs after : List Char} {n : Number} (read : number cs = .ok (n, after)) :
    ∃ c rest, cs = c :: rest ∧ (c = '-' ∨ isDigit c) := by
  unfold number at read
  split at read
  · exact ⟨_, _, rfl, .inl rfl⟩
  · unfold unsigned at read
    split at read
    · cases read
    · exact ⟨_, _, rfl, .inr (by decide)⟩
    · split at read
      · next digit => exact ⟨_, _, rfl, .inr digit⟩
      · cases read

end Parts

/-! ## Integers -/

section Integers

variable {negative : Bool} {significand : Nat} {cs after : List Char} {i : ℤ}

/-- Digits that do not begin with a zero are the text of the number that they denote. -/
theorem toDigits_digitsValue {c : Char} {ds : List Char} (digits : ∀ d ∈ c :: ds, isDigit d) (some : c ≠ '0') :
    Nat.toDigits 10 (digitsValue (c :: ds)) = c :: ds := by
  have upper : digitsValue (c :: ds) < 10 ^ (ds.length + 1) := digitsValue_lt digits
  have lower : 10 ^ ds.length ≤ digitsValue (c :: ds) := by
    have first := digits c List.mem_cons_self
    have bounds := (isDigit_iff c).mp first
    have zero : c.toNat ≠ 48 := fun same => some (Char.toNat_inj.mp same)
    rw [digitsValue_cons first]
    exact (Nat.le_mul_of_pos_left _ (by omega)).trans (Nat.le_add_right _ _)
  have atMost := (Nat.length_toDigits_le_iff (by decide) (Nat.succ_pos _)).mpr upper
  have length : (Nat.toDigits 10 (digitsValue (c :: ds))).length = ds.length + 1 := by
    refine Nat.le_antisymm atMost (Nat.lt_of_not_le fun fewer => ?_)
    rcases Nat.eq_zero_or_pos ds.length with none | more
    · rw [none, Nat.le_zero_eq, List.length_eq_zero_iff] at fewer
      exact Nat.toDigits_ne_nil fewer
    · exact absurd ((Nat.length_toDigits_le_iff (by decide) more).mp fewer) (by omega)
  have written : Numeral (ds.length + 1) (digitsValue (c :: ds)) (Nat.toDigits 10 (digitsValue (c :: ds))) :=
    ⟨length, fun _ => isDigit_of_mem_toDigits, digitsValue_toDigits _⟩
  exact written.unique ⟨List.length_cons, digits, rfl⟩

theorem exists_of_takeDigits {limit n taken m t : Nat} (take : takeDigits limit n taken cs = (m, t, after)) :
    ∃ ds, cs = ds ++ after ∧ (∀ d ∈ ds, isDigit d) ∧ m = n * 10 ^ ds.length + digitsValue ds := by
  induction cs generalizing n taken with
  | nil =>
    cases take
    exact ⟨[], rfl, nofun, by rw [List.length_nil, Nat.pow_zero, Nat.mul_one]; rfl⟩
  | cons c cs ih =>
    have here : ∃ ds, c :: cs = ds ++ c :: cs ∧ (∀ d ∈ ds, isDigit d) ∧ n = n * 10 ^ ds.length + digitsValue ds :=
      ⟨[], rfl, nofun, by rw [List.length_nil, Nat.pow_zero, Nat.mul_one]; rfl⟩
    rw [takeDigits] at take
    split at take
    · next d value =>
      split at take
      · cases take
        exact here
      · obtain ⟨ds, rfl, digits, rfl⟩ := ih take
        have first : isDigit c := by rw [isDigit, value]; rfl
        have same : d = c.toNat - 48 := Option.some.inj (value.symm.trans (digit?_of_isDigit first))
        refine ⟨c :: ds, rfl, List.forall_mem_cons.mpr ⟨first, digits⟩, ?_⟩
        rw [digitsValue_cons first, List.length_cons, same]
        ring
    · cases take
      exact here

/-- No digit is passed over only if there is none. -/
theorem of_passDigits_eq_zero (pass : passDigits cs = (0, after)) :
    cs = after ∧ ∀ c ∈ cs.head?, ¬ isDigit c := by
  rcases split : Decimal.splitDigits cs with ⟨digits, behind⟩
  rw [passDigits, ← Decimal.splitDigits, split] at pass
  obtain ⟨none, rfl⟩ := Prod.mk.inj pass
  obtain ⟨rfl, _, stops⟩ := splitDigits_eq split
  obtain rfl := List.length_eq_zero_iff.mp none
  exact ⟨rfl, stops⟩

theorem scaled_ne_integer (exponent : ℤ) : scaled negative significand exponent cs ≠ .ok (.integer i, after) := by
  intro read
  unfold scaled at read
  split at read <;> cases read

theorem exponentDigits_ne_integer (exponent : ℤ) (down : Bool) :
    exponentDigits negative significand exponent down cs ≠ .ok (.integer i, after) := by
  intro read
  cases cs with
  | nil => cases read
  | cons c cs =>
    simp only [exponentDigits] at read
    split at read
    · split at read
      · split at read <;> cases read
      · exact scaled_ne_integer _ read
    · cases read

theorem exponentPart_ne_integer (exponent : ℤ) :
    exponentPart negative significand exponent cs ≠ .ok (.integer i, after) := by
  intro read
  cases cs with
  | nil => cases read
  | cons c cs =>
    rw [exponentPart_cons] at read
    split at read
    · exact exponentDigits_ne_integer _ _ read
    · split at read <;> exact exponentDigits_ne_integer _ _ read

theorem afterDigits_ne_integer (exponent : ℤ) :
    afterDigits negative significand exponent cs ≠ .ok (.integer i, after) := by
  intro read
  unfold afterDigits at read
  split at read
  · split at read
    · exact exponentPart_ne_integer _ read
    · exact scaled_ne_integer _ read
  · exact scaled_ne_integer _ read

theorem fractionPart_ne_integer (exponent : ℤ) :
    fractionPart negative significand exponent cs ≠ .ok (.integer i, after) := by
  intro read
  simp only [fractionPart] at read
  split at read
  · exact afterDigits_ne_integer _ read
  · split at read
    · split at read <;> cases read
    · exact afterDigits_ne_integer _ read

theorem of_wholeEnd_eq_integer {passed : Nat}
    (read : wholeEnd negative significand passed cs = .ok (.integer i, after)) :
    passed = 0 ∧ integer negative significand = .integer i ∧ after = cs := by
  unfold wholeEnd at read
  split at read
  · next whole =>
    obtain ⟨same, rfl⟩ := Prod.mk.inj (Except.ok.inj read)
    exact ⟨whole, same, rfl⟩
  · exact absurd read (scaled_ne_integer _)

/-- A number is an integer only if nothing is left of it behind the digits before a point. -/
theorem of_afterWhole_eq_integer {passed : Nat}
    (read : afterWhole negative significand passed cs = .ok (.integer i, after)) :
    passed = 0 ∧ integer negative significand = .integer i ∧ after = cs := by
  unfold afterWhole at read
  split at read
  · exact absurd read (fractionPart_ne_integer _)
  · split at read
    · exact absurd read (exponentPart_ne_integer _)
    · exact of_wholeEnd_eq_integer read
  · exact of_wholeEnd_eq_integer read

theorem of_unsigned_eq_integer (read : unsigned negative cs = .ok (.integer i, after)) :
    ∃ significand, integer negative significand = .integer i ∧ cs = Nat.toDigits 10 significand ++ after := by
  cases cs with
  | nil => cases read
  | cons c cs =>
    by_cases zero : c = '0'
    · subst zero
      rw [unsigned] at read
      split at read
      · cases read
      · obtain ⟨_, same, rfl⟩ := of_afterWhole_eq_integer read
        exact ⟨0, same, rfl⟩
    · rw [unsigned] at read
      · split at read
        · next digit =>
          rcases take : takeDigits maxSignificand 0 0 (c :: cs) with ⟨significand, taken, behind⟩
          rcases pass : passDigits behind with ⟨passed, last⟩
          simp only [take, pass] at read
          obtain ⟨rfl, same, rfl⟩ := of_afterWhole_eq_integer read
          obtain ⟨rfl, stops⟩ := of_passDigits_eq_zero pass
          obtain ⟨ds, split, digits, rfl⟩ := exists_of_takeDigits take
          rw [Nat.zero_mul, Nat.zero_add] at same
          cases ds with
          | nil =>
            rw [List.nil_append] at split
            rw [← split] at stops
            exact absurd digit (stops c rfl)
          | cons d ds =>
            obtain rfl := (List.cons.inj split).1
            exact ⟨_, same, by rw [toDigits_digitsValue digits zero, split]⟩
        · cases read
      · exact zero

/-- The text of an integer is its sign and the digits of its size. -/
theorem toString_of_integer_eq (same : integer negative significand = .integer i) :
    (toString i).toList = (if negative then ['-'] else []) ++ Nat.toDigits 10 significand := by
  rw [Int.toString_eq_repr, Int.repr_eq_if]
  unfold integer at same
  cases negative with
  | false =>
    cases same
    rw [if_pos (Int.natCast_nonneg significand), Int.toNat_natCast, Nat.toList_repr]
    rfl
  | true =>
    rw [if_neg (by decide)] at same
    split at same
    · cases same
    · next fits =>
      cases same
      have sign : "-".toList = ['-'] := by decide
      rw [if_neg (by omega), Int.neg_neg, Int.toNat_natCast, String.toList_append, Nat.toList_repr, sign]
      rfl

/-- An integer is read from its own decimal text only. -/
theorem eq_toString_of_number (read : number cs = .ok (.integer i, after)) :
    cs = (toString i).toList ++ after := by
  unfold number at read
  split at read
  · obtain ⟨significand, same, rfl⟩ := of_unsigned_eq_integer read
    rw [toString_of_integer_eq same]
    rfl
  · obtain ⟨significand, same, rfl⟩ := of_unsigned_eq_integer read
    rw [toString_of_integer_eq same]
    rfl

end Integers

end Json

end TypedFilters
