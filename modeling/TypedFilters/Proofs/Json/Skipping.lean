import Mathlib.Data.List.DropRight
import TypedFilters.Proofs.Json.Numbers
import TypedFilters.Proofs.Json.Objects

/-!
# What is read is passed over

A value under a name that nobody asks for is passed over, and only its syntax is checked, more loosely
than where a value is read. So whatever is read as a value is passed over as one, up to the same place
(`skipValue_of_value`). The reader of values nests with the value, while passing over goes on step by step
with the brackets that are open; the steps that a value takes are counted against its characters
(`passes_of_value`), so that their bound is never reached.
-/

namespace TypedFilters.Json

open Text

/-- The front of a text is passed over up to a rest. -/
def SkipsTo (skip : List Char → Except Failure (List Char)) (cs rest : List Char) : Prop :=
  skip cs = .ok rest ∧ rest.length ≤ cs.length

/-! ## Numbers -/

section Numbers

variable {negative : Bool} {significand limit m taken t passed : Nat} {exponent : ℤ} {n : Number}
  {cs after rest : List Char}

theorem snd_passDigits (cs : List Char) : (passDigits cs).2 = cs.dropWhile isDigit := by
  rw [passDigits, List.span_eq_takeWhile_dropWhile]

theorem length_passDigits_le (cs : List Char) : (passDigits cs).2.length ≤ cs.length := by
  rw [snd_passDigits]
  exact List.length_dropWhile_le _ _

theorem passDigits_cons {c : Char} (digit : isDigit c) (cs : List Char) :
    (passDigits (c :: cs)).2 = (passDigits cs).2 := by
  rw [snd_passDigits, snd_passDigits, List.dropWhile_cons_of_pos digit]

theorem passDigits_of_not_startsWithDigit (other : ¬ startsWithDigit cs) : (passDigits cs).2 = cs := by
  rw [snd_passDigits]
  cases cs with
  | nil => rfl
  | cons c cs => exact List.dropWhile_cons_of_neg other

theorem fst_passDigits_ne_zero (starts : startsWithDigit cs) : (passDigits cs).1 ≠ 0 := by
  cases cs with
  | nil => cases starts
  | cons c cs =>
    have digit : isDigit c := starts
    rw [passDigits, List.span_eq_takeWhile_dropWhile, List.takeWhile_cons_of_pos digit]
    exact Nat.succ_ne_zero _

/-- Only digits are taken, so the digits end at the same place. -/
theorem passDigits_of_takeDigits {k : Nat} (take : takeDigits limit k taken cs = (m, t, after)) :
    (passDigits after).2 = (passDigits cs).2 := by
  induction cs generalizing k taken with
  | nil =>
    cases take
    rfl
  | cons c cs ih =>
    unfold takeDigits at take
    split at take
    · next d digit =>
      split at take
      · cases take
        rfl
      · rw [ih take, passDigits_cons (by rw [isDigit, digit]; rfl)]
    · cases take
      rfl

/-- Where a digit is taken or left, there was one at the front. -/
theorem startsWithDigit_of_takeDigits {k : Nat} (take : takeDigits limit k taken cs = (m, t, after))
    (present : t ≠ taken ∨ startsWithDigit after) : startsWithDigit cs := by
  cases cs with
  | nil =>
    cases take
    exact present.resolve_left (not_not_intro rfl)
  | cons c cs =>
    unfold takeDigits at take
    split at take
    · next d digit => rw [startsWithDigit, isDigit, digit]; rfl
    · cases take
      exact present.resolve_left (not_not_intro rfl)

theorem eq_of_scaled (read : scaled negative significand exponent cs = .ok (n, rest)) : rest = cs := by
  unfold scaled at read
  split at read
  · cases read
    rfl
  · cases read

/-- An exponent part after its sign. -/
def skipExponentDigits : List Char → Except Failure (List Char)
  | [] => failHere .invalidNumber []
  | c :: rest => if isDigit c then .ok (passDigits rest).2 else failNext .invalidNumber (c :: rest)

theorem skipExponent_cons (c : Char) (cs : List Char) : skipExponent (c :: cs) =
    if c = '+' ∨ c = '-' then skipExponentDigits cs else skipExponentDigits (c :: cs) := by
  by_cases plus : c = '+'
  · subst plus
    cases cs <;> rfl
  · by_cases minus : c = '-'
    · subst minus
      cases cs <;> rfl
    · rw [if_neg (not_or.mpr ⟨plus, minus⟩), skipExponent]
      · rfl
      · rintro _ ⟨⟩
        exact plus rfl
      · rintro _ ⟨⟩
        exact minus rfl

theorem skipsTo_exponentDigits {down : Bool}
    (read : exponentDigits negative significand exponent down cs = .ok (n, rest)) :
    SkipsTo skipExponentDigits cs rest := by
  cases cs with
  | nil => cases read
  | cons c cs =>
    rcases take : takeDigits maxExponent 0 0 (c :: cs) with ⟨written, taken, behind⟩
    have ends := passDigits_of_takeDigits take
    simp only [exponentDigits, take] at read
    split at read
    · next digit =>
      rw [passDigits_cons digit] at ends
      have last : rest = (passDigits cs).2 := by
        split at read
        · split at read
          · cases read
          · cases read
            exact ends
        · next short =>
          rw [eq_of_scaled read, ← ends, passDigits_of_not_startsWithDigit short]
      rw [last, SkipsTo, skipExponentDigits, if_pos digit]
      exact ⟨rfl, (length_passDigits_le cs).trans (Nat.le_succ _)⟩
    · cases read

theorem skipsTo_exponent (read : exponentPart negative significand exponent cs = .ok (n, rest)) :
    SkipsTo skipExponent cs rest := by
  cases cs with
  | nil => cases read
  | cons c cs =>
    rw [exponentPart_cons] at read
    rw [SkipsTo, skipExponent_cons]
    split at read
    · next plus =>
      obtain ⟨skips, shorter⟩ := skipsTo_exponentDigits read
      rw [if_pos (.inl plus)]
      exact ⟨skips, shorter.trans (Nat.le_succ _)⟩
    split at read
    · next minus =>
      obtain ⟨skips, shorter⟩ := skipsTo_exponentDigits read
      rw [if_pos (.inr minus)]
      exact ⟨skips, shorter.trans (Nat.le_succ _)⟩
    · next plus minus =>
      rw [if_neg (not_or.mpr ⟨plus, minus⟩)]
      exact skipsTo_exponentDigits read

theorem skipsTo_afterDigits (read : afterDigits negative significand exponent cs = .ok (n, rest)) :
    SkipsTo skipOptionalExponent cs rest := by
  cases cs with
  | nil =>
    cases eq_of_scaled read
    exact ⟨rfl, Nat.le_refl _⟩
  | cons c cs =>
    rw [afterDigits] at read
    rw [SkipsTo, skipOptionalExponent]
    split at read
    · next mark =>
      obtain ⟨skips, shorter⟩ := skipsTo_exponent read
      rw [if_pos mark]
      exact ⟨skips, shorter.trans (Nat.le_succ _)⟩
    · next other =>
      cases eq_of_scaled read
      rw [if_neg other]
      exact ⟨rfl, Nat.le_refl _⟩

theorem skipsTo_fraction (read : fractionPart negative significand exponent cs = .ok (n, rest)) :
    SkipsTo skipAfterWhole ('.' :: cs) rest := by
  rcases take : takeDigits maxSignificand significand 0 cs with ⟨significand', taken, behind⟩
  simp only [fractionPart, take] at read
  have ends := passDigits_of_takeDigits take
  have fraction : startsWithDigit cs ∧ SkipsTo skipOptionalExponent (passDigits cs).2 rest := by
    split at read
    · next long =>
      rw [ends] at read
      exact ⟨startsWithDigit_of_takeDigits take (.inr long), skipsTo_afterDigits read⟩
    · next short =>
      split at read
      · split at read <;> cases read
      · next present =>
        rw [passDigits_of_not_startsWithDigit short] at ends
        exact ⟨startsWithDigit_of_takeDigits take (.inl present), ends ▸ skipsTo_afterDigits read⟩
  obtain ⟨starts, skips, shorter⟩ := fraction
  rw [SkipsTo, skipAfterWhole]
  dsimp only
  rw [if_neg (fst_passDigits_ne_zero starts)]
  exact ⟨skips, (shorter.trans (length_passDigits_le cs)).trans (Nat.le_succ _)⟩

theorem skipsTo_afterWhole (read : afterWhole negative significand passed cs = .ok (n, rest)) :
    SkipsTo skipAfterWhole cs rest := by
  have ended : wholeEnd negative significand passed cs = .ok (n, rest) → rest = cs := by
    unfold wholeEnd
    intro read
    split at read
    · cases read
      rfl
    · exact eq_of_scaled read
  cases cs with
  | nil =>
    cases ended read
    exact ⟨rfl, Nat.le_refl _⟩
  | cons c cs =>
    rw [afterWhole_cons] at read
    split at read
    · next point =>
      rw [point]
      exact skipsTo_fraction read
    · next point =>
      have passes : skipAfterWhole (c :: cs) = skipOptionalExponent (c :: cs) := by
        rw [skipAfterWhole]
        rintro _ ⟨⟩
        exact point rfl
      rw [SkipsTo, passes, skipOptionalExponent]
      split at read
      · next mark =>
        obtain ⟨skips, shorter⟩ := skipsTo_exponent read
        rw [if_pos mark]
        exact ⟨skips, shorter.trans (Nat.le_succ _)⟩
      · next other =>
        cases ended read
        rw [if_neg other]
        exact ⟨rfl, Nat.le_refl _⟩

/-- A number is passed over as far as it is read, and that is not nothing. -/
theorem skipsTo_unsigned (read : unsigned negative cs = .ok (n, rest)) :
    skipUnsigned cs = .ok rest ∧ rest.length < cs.length := by
  cases cs with
  | nil => cases read
  | cons c cs =>
    by_cases zero : c = '0'
    · subst zero
      rw [unsigned] at read
      rw [skipUnsigned]
      split at read
      · cases read
      · next alone =>
        obtain ⟨skips, shorter⟩ := skipsTo_afterWhole read
        rw [if_neg alone]
        exact ⟨skips, Nat.lt_succ_of_le shorter⟩
    · rw [unsigned] at read
      · rw [skipUnsigned]
        · split at read
          · next digit =>
            rcases take : takeDigits maxSignificand 0 0 (c :: cs) with ⟨significand, taken, behind⟩
            have ends := passDigits_of_takeDigits take
            rw [passDigits_cons digit] at ends
            simp only [take, ends] at read
            obtain ⟨skips, shorter⟩ := skipsTo_afterWhole read
            rw [if_pos digit]
            exact ⟨skips, Nat.lt_succ_of_le (shorter.trans (length_passDigits_le cs))⟩
          · cases read
        · exact zero
      · exact zero

end Numbers

/-! ## Strings and words -/

section Strings

variable {cs after rest : List Char} {bound room : Nat}

theorem length_of_hexQuad {n : Nat} (read : hexQuad cs = .ok (n, after)) :
    after.length + 4 = cs.length := by
  unfold hexQuad at read
  split at read
  · split at read
    · cases read
      rfl
    · unfold hexQuad.hexQuadFailure at read
      split at read <;> cases read
  · unfold hexQuad.hexQuadFailure at read
    split at read <;> cases read

theorem exists_of_trailingSurrogate {n : Nat} (read : trailingSurrogate cs = .ok (n, after)) :
    ∃ quad, cs = '\\' :: 'u' :: quad ∧ hexQuad quad = .ok (n, after) := by
  unfold trailingSurrogate at read
  split at read
  · cases read
  · cases read
  · next quad =>
    split at read
    · cases read
    · next m behind code =>
      split at read
      · cases read
        exact ⟨quad, rfl, code⟩
      · cases read
  · cases read
  · cases read

theorem skipString_quote {c : Char} (quote : c = '"') (room : Nat) :
    skipString (room + 1) (c :: cs) = .ok cs := by
  rw [skipString.eq_def]
  exact if_pos quote

theorem skipString_plain {c : Char} (quote : c ≠ '"') (backslash : c ≠ '\\') (visible : ¬ c.toNat < 32)
    (room : Nat) : skipString (room + 1) (c :: cs) = skipString room cs := by
  rw [skipString.eq_def]
  dsimp only
  rw [if_neg quote, if_neg backslash, if_neg visible]

theorem skipString_code {n : Nat} (read : hexQuad cs = .ok (n, after)) (room : Nat) :
    skipString (room + 1) ('\\' :: 'u' :: cs) = skipString room after := by
  rw [skipString, if_neg (by decide), if_pos rfl, read]

/-- An escape is passed over, in two steps where it spells one character by two codes. -/
theorem exists_skipString_escape {d : Char} (read : escape cs = .ok (d, after)) (enough : cs.length < room) :
    after.length ≤ cs.length ∧
      ∃ left, after.length < left ∧ skipString (room + 1) ('\\' :: cs) = skipString left after := by
  unfold escape at read
  split at read
  · cases read
  · next quad =>
    unfold codeEscape at read
    split at read
    · cases read
    next n behind code =>
    have first := skipString_code code room
    have shorter := length_of_hexQuad code
    rw [List.length_cons] at enough ⊢
    split at read
    · cases read
    split at read
    · split at read
      · cases read
      next m last trailing =>
      rw [Except.ok.injEq, Prod.mk.injEq] at read
      obtain rfl := read.2
      obtain ⟨quad', rfl, code'⟩ := exists_of_trailingSurrogate trailing
      have shorter' := length_of_hexQuad code'
      simp only [List.length_cons] at shorter
      obtain ⟨left, rfl⟩ : ∃ left, room = left + 1 := ⟨room - 1, by omega⟩
      rw [skipString_code code'] at first
      exact ⟨by omega, left, by omega, first⟩
    · cases read
      exact ⟨by omega, room, by omega, first⟩
  · next c rest code =>
    split at read
    · next letter =>
      cases read
      rw [List.length_cons] at enough ⊢
      refine ⟨Nat.le_succ _, room, by omega, ?_⟩
      rw [skipString, if_neg (by decide), if_pos rfl]
      · simp only [letter, Option.isSome_some, if_true]
      · exact code
    · cases read

theorem skipString_of_stringBody {read : List Char} {s : String}
    (taken : stringBody bound read cs = .ok (s, rest)) (enough : cs.length < room) :
    skipString room cs = .ok rest ∧ rest.length ≤ cs.length := by
  induction bound generalizing read cs room with
  | zero => cases taken
  | succ bound ih =>
    obtain ⟨room, rfl⟩ : ∃ left, room = left + 1 := ⟨room - 1, by omega⟩
    cases cs with
    | nil => cases taken
    | cons c cs =>
      rw [List.length_cons] at enough ⊢
      rw [stringBody] at taken
      split at taken
      · next quote =>
        cases taken
        exact ⟨skipString_quote quote room, Nat.le_succ _⟩
      next quote =>
      split at taken
      · next backslash =>
        split at taken
        · cases taken
        next d after escaped =>
        subst backslash
        obtain ⟨shorter, left, enough', skips⟩ :=
          exists_skipString_escape escaped (by omega : cs.length < room)
        obtain ⟨done, short⟩ := ih taken enough'
        exact ⟨skips.trans done, by omega⟩
      next backslash =>
      split at taken
      · cases taken
      next control =>
      obtain ⟨done, short⟩ := ih taken (by omega : cs.length < room)
      exact ⟨(skipString_plain quote backslash control room).trans done, by omega⟩

/-- A string is passed over as far as it is read. -/
theorem skipString_of_string {s : String} (read : string cs = .ok (s, rest)) :
    skipString (cs.length + 1) cs = .ok rest ∧ rest.length ≤ cs.length :=
  skipString_of_stringBody read (Nat.lt_succ_self _)

theorem length_of_word {letters : List Char} (read : word letters cs = .ok rest) :
    rest.length ≤ cs.length := by
  induction letters generalizing cs with
  | nil =>
    cases read
    exact Nat.le_refl _
  | cons w letters ih =>
    cases cs with
    | nil => cases read
    | cons c cs =>
      rw [word] at read
      split at read
      · exact (ih read).trans (Nat.le_succ _)
      · cases read

/-- A scalar is passed over as far as it is read, and that is not nothing. -/
theorem skipScalar_of_scalar {v : Value} (read : scalar cs = .ok (v, rest)) :
    skipScalar cs = .ok rest ∧ rest.length < cs.length := by
  unfold scalar at read
  split at read
  · cases read
  · obtain ⟨after, taken, eq⟩ := map_eq_ok_iff.mp read
    cases eq
    exact ⟨taken, Nat.lt_succ_of_le (length_of_word taken)⟩
  · obtain ⟨after, taken, eq⟩ := map_eq_ok_iff.mp read
    cases eq
    exact ⟨taken, Nat.lt_succ_of_le (length_of_word taken)⟩
  · obtain ⟨after, taken, eq⟩ := map_eq_ok_iff.mp read
    cases eq
    exact ⟨taken, Nat.lt_succ_of_le (length_of_word taken)⟩
  · obtain ⟨⟨s, after⟩, taken, eq⟩ := map_eq_ok_iff.mp read
    cases eq
    obtain ⟨skips, shorter⟩ := skipString_of_string taken
    exact ⟨skips, Nat.lt_succ_of_le shorter⟩
  · next c cs null true' false' quote =>
    split at read
    · next front =>
      obtain ⟨⟨n, after⟩, taken, eq⟩ := map_eq_ok_iff.mp read
      cases eq
      by_cases minus : c = '-'
      · subst minus
        obtain ⟨skips, shorter⟩ := @skipsTo_unsigned true _ _ _ taken
        exact ⟨skips, Nat.lt_succ_of_lt shorter⟩
      · have unsigned : unsigned false (c :: cs) = .ok (n, rest) := by
          rw [← taken, number]
          rintro _ ⟨⟩
          exact minus rfl
        rw [skipScalar, if_pos (front.resolve_left minus)]
        · exact skipsTo_unsigned unsigned
        all_goals assumption
    · cases read

end Strings

/-! ## Arrays and objects -/

section Steps

variable {n steps : Nat} {first : Bool} {e : Enclosing} {outer : List Enclosing}
  {cs named behind after rest : List Char}

/-- What is awaited in an array or object: its first part or its end, or a comma or its end. -/
def awaits (first : Bool) : Awaited :=
  if first then .endOrFirst else .endOrComma

theorem length_skipSpace_le (cs : List Char) : (skipSpace cs).length ≤ cs.length :=
  List.length_dropWhile_le _ _

theorem skipSpace_skipSpace (cs : List Char) : skipSpace (skipSpace cs) = skipSpace cs :=
  List.dropWhile_idempotent _ _

/-- White space in front of a value is of no account. -/
theorem skipFrom_skipSpace (n : Nat) (outer : List Enclosing) (cs : List Char) :
    skipFrom n .value outer (skipSpace cs) = skipFrom n .value outer cs := by
  cases n with
  | zero => rfl
  | succ n => rw [skipFrom, skipFrom, skipSpace_skipSpace]

theorem skipFrom_close (front : skipSpace cs = e.close :: rest) :
    skipFrom (n + 1) (awaits first) (e :: outer) cs = skipFrom n .endOrComma outer rest := by
  cases first with
  | true =>
    rw [awaits, if_pos rfl, skipFrom, front]
    · exact if_pos rfl
    · exact nofun
  | false =>
    rw [awaits, if_neg Bool.false_ne_true, skipFrom, front]
    · exact if_pos rfl
    · exact nofun

theorem skipFrom_first {c : Char} (front : skipSpace cs = c :: rest) (other : c ≠ e.close)
    (turn : skipToValue e (c :: rest) = .ok after) :
    skipFrom (n + 1) (awaits true) (e :: outer) cs = skipFrom n .value (e :: outer) after := by
  rw [awaits, if_pos rfl, skipFrom, front]
  · dsimp only
    rw [if_neg other, if_pos rfl, turn]
  · exact nofun

theorem skipFrom_comma (front : skipSpace cs = ',' :: rest) (turn : skipToValue e rest = .ok after) :
    skipFrom (n + 1) (awaits false) (e :: outer) cs = skipFrom n .value (e :: outer) after := by
  have other : ',' ≠ e.close := by cases e <;> decide
  rw [awaits, if_neg Bool.false_ne_true, skipFrom, front]
  · dsimp only
    rw [if_neg other, if_neg (by decide), if_pos rfl, turn]
  · exact nofun

/-- The step to the next item. -/
theorem skipFrom_item (next : nextItem first cs = .ok (.item after)) :
    after.length + 1 ≤ cs.length + first.toNat ∧
      skipFrom (n + 1) (awaits first) (.array :: outer) cs = skipFrom n .value (.array :: outer) after := by
  have shorter := length_skipSpace_le cs
  unfold nextItem at next
  split at next
  · cases next
  · cases next
  · next rest front =>
    rw [front, List.length_cons] at shorter
    cases first with
    | true =>
      cases next
      exact ⟨Nat.succ_le_succ shorter, skipFrom_first front (by decide) rfl⟩
    | false =>
      rw [if_neg Bool.false_ne_true] at next
      split at next
      · cases next
      · cases next
      · cases next
        have behind := length_skipSpace_le rest
        refine ⟨by simp only [Bool.toNat_false]; omega, ?_⟩
        rw [skipFrom_skipSpace]
        exact skipFrom_comma front rfl
  · next nonempty close comma =>
    cases first with
    | true =>
      rw [if_pos rfl] at next
      cases next
      refine ⟨Nat.succ_le_succ shorter, ?_⟩
      cases front : skipSpace cs with
      | nil => exact absurd front nonempty
      | cons c rest =>
        refine skipFrom_first front ?_ rfl
        rintro rfl
        exact close rest front
    | false =>
      rw [if_neg Bool.false_ne_true] at next
      cases next

/-- The step to the end of an array. -/
theorem skipFrom_listEnd (next : nextItem first cs = .ok (.done after)) :
    (after.drop 1).length < cs.length ∧
      skipFrom (n + 1) (awaits first) (.array :: outer) cs = skipFrom n .endOrComma outer (after.drop 1) := by
  have shorter := length_skipSpace_le cs
  unfold nextItem at next
  split at next
  · cases next
  · next rest front =>
    cases next
    rw [front] at shorter
    exact ⟨shorter, skipFrom_close front⟩
  · split at next
    · cases next
    · split at next <;> cases next
  · split at next <;> cases next

/-- A name is passed over with its colon. -/
theorem skipName_of_string {s : String} (read : string named = .ok (s, behind))
    (colons : colon behind = .ok after) {cs : List Char} (front : skipSpace cs = '"' :: named) :
    skipName cs = .ok after := by
  simp only [skipName, front, (skipString_of_string read).1]
  exact colons

theorem length_of_colon (colons : colon cs = .ok after) : after.length < cs.length := by
  have shorter := length_skipSpace_le cs
  unfold colon at colons
  split at colons
  · cases colons
  · next rest mark =>
    cases colons
    rwa [mark] at shorter
  · cases colons

/-- The step to the value of the next member. -/
theorem skipFrom_member {s : String} (next : nextName first cs = .ok (.item named))
    (read : string named = .ok (s, behind)) (colons : colon behind = .ok after) :
    after.length + 1 ≤ cs.length ∧
      skipFrom (n + 1) (awaits first) (.object :: outer) cs = skipFrom n .value (.object :: outer) after := by
  have shorter := length_skipSpace_le cs
  have named_le := (skipString_of_string read).2
  have after_lt := length_of_colon colons
  have quoted : skipSpace ('"' :: named) = '"' :: named := rfl
  unfold nextName at next
  split at next
  · cases next
  · cases next
  · next rest front =>
    split at next
    · cases next
    next notFirst =>
    obtain rfl := Bool.not_eq_true _ ▸ notFirst
    split at next
    · cases next
    · next inner _ opening =>
      cases next
      have inner_le := length_skipSpace_le rest
      rw [opening, List.length_cons] at inner_le
      rw [front, List.length_cons] at shorter
      exact ⟨by omega, skipFrom_comma front (skipName_of_string read colons opening)⟩
    · cases next
    · cases next
  · next rest front =>
    split at next
    · next isFirst =>
      obtain rfl := isFirst
      cases next
      rw [front, List.length_cons] at shorter
      exact ⟨by omega, skipFrom_first front (by decide) (skipName_of_string read colons quoted)⟩
    · cases next
  · split at next <;> cases next

/-- The step to the end of an object. -/
theorem skipFrom_objectEnd (next : nextName first cs = .ok (.done after)) :
    (after.drop 1).length < cs.length ∧
      skipFrom (n + 1) (awaits first) (.object :: outer) cs =
        skipFrom n .endOrComma outer (after.drop 1) := by
  have shorter := length_skipSpace_le cs
  unfold nextName at next
  split at next
  · cases next
  · next rest front =>
    cases next
    rw [front] at shorter
    exact ⟨shorter, skipFrom_close front⟩
  · split at next
    · cases next
    · split at next <;> cases next
  · split at next <;> cases next
  · split at next <;> cases next

end Steps

/-! ## Values -/

/-- What is awaited is passed over up to a rest, whatever is open around it, in at most two steps for each
character and some to spare. -/
def Passes (awaited : Awaited) (inner : List Enclosing) (spare : Nat) (cs rest : List Char) : Prop :=
  ∃ steps, steps + 2 * rest.length ≤ 2 * cs.length + spare ∧
    ∀ n outer, skipFrom (n + steps) awaited (inner ++ outer) cs = skipFrom n .endOrComma outer rest

section Values

variable {α : Type} {item : Reader α} {awaited awaited' : Awaited} {inner inner' : List Enclosing}
  {depth n spare spare' : Nat} {first : Bool} {cs after rest : List Char} {v : Value}

/-- One step, and then what is awaited behind it. -/
theorem Passes.step (passes : Passes awaited' inner' spare' after rest)
    (turn : ∀ n outer,
      skipFrom (n + 1) awaited (inner ++ outer) cs = skipFrom n awaited' (inner' ++ outer) after)
    (shorter : 2 * after.length + spare' + 1 ≤ 2 * cs.length + spare) :
    Passes awaited inner spare cs rest := by
  obtain ⟨steps, bound, passed⟩ := passes
  refine ⟨steps + 1, by omega, fun n outer => ?_⟩
  rw [← passed, ← turn, Nat.add_assoc]

/-- The last step. -/
theorem passes_of_turn
    (turn : ∀ n outer, skipFrom (n + 1) awaited (inner ++ outer) cs = skipFrom n .endOrComma outer rest)
    (shorter : rest.length < cs.length) : Passes awaited inner spare cs rest :=
  ⟨1, by omega, turn⟩

/-- A value, and then what is awaited behind it. -/
theorem Passes.trans (value : Passes .value [] 0 cs after) (passes : Passes .endOrComma inner 0 after rest) :
    Passes .value inner 0 cs rest := by
  obtain ⟨steps, bound, passed⟩ := value
  obtain ⟨more, bound', passed'⟩ := passes
  refine ⟨more + steps, by omega, fun n outer => ?_⟩
  rw [← passed', ← Nat.add_assoc]
  exact passed (n + more) (inner ++ outer)

/-- Items are passed over up to the end of their array, if each of them is. -/
theorem passes_of_items
    (each : ∀ {cs x rest}, item cs = .ok (x, rest) → Passes .value [] 0 cs rest) {read xs : List α}
    (taken : items item n read first cs = .ok (xs, rest)) :
    Passes (awaits first) [.array] first.toNat cs rest := by
  induction n generalizing read first cs with
  | zero => cases taken
  | succ n ih =>
    rw [items] at taken
    split at taken
    · cases taken
    · next after next =>
      cases taken
      exact passes_of_turn (fun _ _ => (skipFrom_listEnd next).2) (@skipFrom_listEnd 0 first [] _ _ next).1
    · next after next =>
      split at taken
      · cases taken
      · next x behind one =>
        refine ((each one).trans (ih taken)).step (fun _ _ => (skipFrom_item next).2) ?_
        have shorter := (@skipFrom_item 0 first [] _ _ next).1
        have spare := Bool.toNat_le first
        omega

/-- Members are passed over up to the end of their object, if each of their values is. -/
theorem passes_of_members
    (each : ∀ {cs x rest}, item cs = .ok (x, rest) → Passes .value [] 0 cs rest) {read ms : List (String × α)}
    (taken : members (addMember item) n read first cs = .ok (ms, rest)) :
    Passes (awaits first) [.object] 0 cs rest := by
  induction n generalizing read first cs with
  | zero => cases taken
  | succ n ih =>
    obtain ⟨after, next, rfl, rfl⟩ | ⟨named, name, behind, _, last, next, string, added, taken⟩ :=
      members_succ_eq_ok_iff.mp taken
    · exact passes_of_turn (fun _ _ => (skipFrom_objectEnd next).2)
        (@skipFrom_objectEnd 0 first [] _ _ next).1
    · obtain ⟨x, valued, rfl⟩ := addMember_eq_ok_iff.mp added
      unfold afterColon at valued
      split at valued
      · cases valued
      · next after colons =>
        refine ((each valued).trans (ih taken)).step (fun _ _ => (skipFrom_member next string colons).2) ?_
        have shorter := (@skipFrom_member 0 first [] _ _ _ _ _ next string colons).1
        omega

theorem passes_of_scalar (read : scalar (skipSpace cs) = .ok (v, rest))
    (array : ∀ after, skipSpace cs ≠ '[' :: after) (object : ∀ after, skipSpace cs ≠ '{' :: after) :
    Passes .value [] 0 cs rest := by
  obtain ⟨skips, shorter⟩ := skipScalar_of_scalar read
  refine passes_of_turn (fun n outer => ?_) (shorter.trans_le (length_skipSpace_le cs))
  rw [skipFrom]
  split
  · next front => exact absurd front (array _)
  · next front => exact absurd front (object _)
  · rw [skips]
    rfl

/-- Whatever is read as a value is passed over. -/
theorem passes_of_value (read : value depth cs = .ok (v, rest)) : Passes .value [] 0 cs rest := by
  induction depth generalizing cs v rest with
  | zero =>
    have array : ∀ after, skipSpace cs ≠ '[' :: after := by
      intro after front
      unfold value at read
      rw [front] at read
      cases read
    have object : ∀ after, skipSpace cs ≠ '{' :: after := by
      intro after front
      unfold value at read
      rw [front] at read
      cases read
    rw [value_of_other array object] at read
    exact passes_of_scalar read array object
  | succ depth ih =>
    have shorter := length_skipSpace_le cs
    by_cases array : ∃ after, skipSpace cs = '[' :: after
    · rcases array with ⟨after, front⟩
      rw [value_of_bracket front] at read
      obtain ⟨⟨vs, last⟩, taken, eq⟩ := map_eq_ok_iff.mp read
      cases eq
      rw [front, List.length_cons] at shorter
      refine (passes_of_items ih taken).step (fun n outer => ?_) (by simp only [Bool.toNat_true]; omega)
      rw [skipFrom, front]
      rfl
    by_cases object : ∃ after, skipSpace cs = '{' :: after
    · rcases object with ⟨after, front⟩
      rw [value_of_brace front] at read
      obtain ⟨⟨ms, last⟩, taken, eq⟩ := map_eq_ok_iff.mp read
      cases eq
      rw [front, List.length_cons] at shorter
      refine (passes_of_members ih taken).step (fun n outer => ?_) (by omega)
      rw [skipFrom, front]
      rfl
    rw [not_exists] at array object
    rw [value_of_other array object] at read
    exact passes_of_scalar read array object

/-- What is read as a value is passed over as one, up to the same place. -/
theorem skipValue_of_value (read : value depth cs = .ok (v, rest)) : skipValue cs = .ok rest := by
  obtain ⟨steps, bound, passed⟩ := passes_of_value read
  obtain ⟨left, enough⟩ : ∃ left, 2 * cs.length + 2 = left + 1 + steps :=
    ⟨2 * cs.length + 1 - steps, by omega⟩
  rw [skipValue, enough]
  exact passed (left + 1) []

end Values

end TypedFilters.Json
