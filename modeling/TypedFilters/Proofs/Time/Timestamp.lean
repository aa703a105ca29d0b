import TypedFilters.Proofs.Text.Numerals
import TypedFilters.Proofs.Time.UtcText

/-!
# The form of timestamps

A timestamp is a date, one of `T`, `t` and blank, a time of day with a fraction or without, and an
offset from UTC, every number with its fixed width (`Rfc3339.Spells`). The reader takes exactly the
timestamps, and answers what they spell (`read?_eq_some_iff`). A timestamp has no blanks around it
(`Spells.trimChars_eq`).
-/

namespace TypedFilters.Rfc3339

open Text

/-! ## The form of a timestamp -/

/-- The fraction of a second in nanoseconds: nothing, or a point with digits, of which those past the
ninth are cut off. -/
inductive IsFraction : Nat → List Char → Prop
  | none : IsFraction 0 []
  | digits {ds : List Char} (some : ds ≠ []) (all : ∀ d ∈ ds, isDigit d) :
      IsFraction (digitsValue ds * 10 ^ 9 / 10 ^ ds.length) ('.' :: ds)

/-- An offset in minutes east of UTC. -/
inductive IsOffset : Int → List Char → Prop
  | zulu {z : Char} (letter : z = 'Z' ∨ z = 'z') : IsOffset 0 [z]
  | east {hours minutes : Nat} {hh mm : List Char} (hour : Numeral 2 hours hh) (hour_le : hours ≤ 23)
      (minute : Numeral 2 minutes mm) (minute_le : minutes ≤ 59) :
      IsOffset (60 * hours + minutes : Nat) ('+' :: (hh ++ ':' :: mm))
  | west {hours minutes : Nat} {sign : Char} {hh mm : List Char} (minus : sign = '-' ∨ sign = '\u2212')
      (hour : Numeral 2 hours hh) (hour_le : hours ≤ 23) (minute : Numeral 2 minutes mm)
      (minute_le : minutes ≤ 59) : IsOffset (-(60 * hours + minutes : Nat)) (sign :: (hh ++ ':' :: mm))

/-- The characters are a timestamp that spells an existing civil time and an offset in minutes. -/
inductive Spells : Civil → Int → List Char → Prop
  | timestamp {year month day hour minute second nanos : Nat} {offset : Int} {separator : Char}
      {yyyy mo dd hh mi ss fraction zone : List Char}
      (valid : (⟨year, month, day, hour, minute, second, nanos⟩ : Civil).isValid)
      (isYear : Numeral 4 year yyyy) (isMonth : Numeral 2 month mo) (isDay : Numeral 2 day dd)
      (separates : separator = 'T' ∨ separator = 't' ∨ separator = ' ')
      (isHour : Numeral 2 hour hh) (isMinute : Numeral 2 minute mi) (isSecond : Numeral 2 second ss)
      (isFraction : IsFraction nanos fraction) (isOffset : IsOffset offset zone) :
      Spells ⟨year, month, day, hour, minute, second, nanos⟩ offset
        (yyyy ++ '-' :: (mo ++ '-' :: (dd ++ separator :: (hh ++ ':' :: (mi ++ ':' :: (ss ++
          (fraction ++ zone)))))))

/-! ## Reading the parts -/

section Parts

variable {cs rest : List Char}

theorem fixed?_eq_some_iff {width n : Nat} :
    fixed? width cs = some (n, rest) ↔ ∃ ds, Numeral width n ds ∧ cs = ds ++ rest := by
  simp only [fixed?]
  constructor
  · intro read
    split at read
    · next fits =>
      rcases fits with ⟨length, digits⟩
      cases read
      exact ⟨cs.take width, ⟨length, List.all_eq_true.mp digits, rfl⟩, (List.take_append_drop _ _).symm⟩
    · cases read
  · rintro ⟨ds, ⟨rfl, digits, rfl⟩, rfl⟩
    rw [List.take_left, List.drop_left, if_pos ⟨rfl, List.all_eq_true.mpr digits⟩]

theorem skip?_eq_some_iff {c : Char} : skip? c cs = some rest ↔ cs = c :: rest := by
  cases cs with
  | nil => exact iff_of_false nofun nofun
  | cons d ds =>
    simp only [skip?]
    split
    · next same => simp only [Option.some.injEq, List.cons.injEq, same, true_and]
    · next other => simp only [reduceCtorEq, List.cons.injEq, other, false_and]

theorem separator?_eq_some_iff :
    separator? cs = some rest ↔ ∃ m, (m = 'T' ∨ m = 't' ∨ m = ' ') ∧ cs = m :: rest := by
  cases cs with
  | nil => exact iff_of_false nofun (by simp only [reduceCtorEq, and_false, exists_false, not_false_iff])
  | cons d ds =>
    simp only [separator?, List.cons.injEq]
    split
    · next mark =>
      rw [Option.some.injEq]
      exact ⟨fun same => ⟨d, mark, rfl, same⟩, fun ⟨_, _, _, same⟩ => same⟩
    · next other =>
      refine iff_of_false nofun ?_
      rintro ⟨m, mark, rfl, _⟩
      exact other mark

/-- The first nine digits of a fraction count nanoseconds. -/
theorem nanos_eq {ds : List Char} (digits : ∀ d ∈ ds, isDigit d) :
    digitsValue ((ds.take 9).rightpad 9 '0') = digitsValue ds * 10 ^ 9 / 10 ^ ds.length := by
  rw [List.rightpad, digitsValue_append_zeros, List.length_take, digitsValue_take digits]
  rcases Nat.le_total ds.length 9 with short | long
  · rw [Nat.sub_eq_zero_of_le short, Nat.pow_zero, Nat.div_one, Nat.min_eq_right short]
    have split : 10 ^ 9 = 10 ^ (9 - ds.length) * 10 ^ ds.length := by
      rw [← Nat.pow_add, Nat.sub_add_cancel short]
    rw [split, ← Nat.mul_assoc, Nat.mul_div_cancel _ (Nat.pow_pos (by decide))]
  · rw [Nat.min_eq_left long, Nat.sub_self, Nat.pow_zero, Nat.mul_one]
    have split : 10 ^ ds.length = 10 ^ (ds.length - 9) * 10 ^ 9 := by
      rw [← Nat.pow_add, Nat.sub_add_cancel long]
    rw [split, Nat.mul_div_mul_right _ _ (Nat.pow_pos (by decide))]

theorem exists_of_fraction? {n : Nat} (read : fraction? cs = some (n, rest)) :
    ∃ front, IsFraction n front ∧ cs = front ++ rest := by
  unfold fraction? at read
  split at read
  · next after =>
    cases split : Decimal.splitDigits after with
    | mk digits behind =>
      obtain ⟨rfl, all, _⟩ := splitDigits_eq split
      rw [split] at read
      dsimp only at read
      split at read
      · cases read
      · next some =>
        cases read
        rw [nanos_eq all]
        exact ⟨'.' :: digits, .digits (mt List.isEmpty_iff.mpr some) all, rfl⟩
  · cases read
    exact ⟨[], .none, rfl⟩

/-- A fraction is read up to what cannot belong to it. -/
theorem fraction?_append {n : Nat} {front : List Char} (isFraction : IsFraction n front)
    (ends : ∀ c ∈ rest.head?, ¬ isDigit c ∧ c ≠ '.') : fraction? (front ++ rest) = some (n, rest) := by
  cases isFraction with
  | none =>
    unfold fraction?
    split
    · next point => exact absurd rfl (ends '.' (by rw [List.nil_append] at point; rw [point]; rfl)).2
    · rfl
  | @digits ds some all =>
    have split := splitDigits_append_of_ends all fun c first => (ends c first).1
    simp only [List.cons_append, fraction?, split, List.isEmpty_eq_false_iff.mpr some,
      Bool.false_eq_true, if_false, nanos_eq all]

theorem IsOffset.ends {minutes : Int} (isOffset : IsOffset minutes cs) :
    ∀ c ∈ cs.head?, ¬ isDigit c ∧ c ≠ '.' := by
  intro c first
  cases isOffset with
  | zulu letter =>
    cases first
    rcases letter with rfl | rfl <;> exact ⟨by decide, by decide⟩
  | east =>
    cases first
    exact ⟨by decide, by decide⟩
  | west minus =>
    cases first
    rcases minus with rfl | rfl <;> exact ⟨by decide, by decide⟩

/-- Hours and minutes around a colon, up to the end, as seconds east or west. -/
def clock? (west : Bool) (cs : List Char) : Option Int := do
  let (hours, cs) ← fixed? 2 cs
  let cs ← skip? ':' cs
  let (minutes, cs) ← fixed? 2 cs
  if cs.isEmpty ∧ hours ≤ 23 ∧ minutes ≤ 59 then
    let seconds : Int := (hours * 3600 + minutes * 60 : Nat)
    some (if west then -seconds else seconds)
  else none

theorem clock?_eq_some_iff {west : Bool} {o : Int} :
    clock? west cs = some o ↔ ∃ hours minutes hh mm, (Numeral 2 hours hh ∧ hours ≤ 23) ∧
      (Numeral 2 minutes mm ∧ minutes ≤ 59) ∧ cs = hh ++ ':' :: mm ∧
        o = 60 *
          (if west then -((60 * hours + minutes : Nat) : Int) else (60 * hours + minutes : Nat)) := by
  simp only [clock?, Option.bind_eq_bind, Option.bind_eq_some_iff, Prod.exists, fixed?_eq_some_iff,
    skip?_eq_some_iff, Option.ite_none_right_eq_some, List.isEmpty_iff, Option.some.injEq]
  constructor
  · rintro ⟨hours, _, ⟨hh, hour, rfl⟩, _, rfl, minutes, _, ⟨mm, minute, rfl⟩, ⟨rfl, hour_le, minute_le⟩,
      rfl⟩
    refine ⟨hours, minutes, hh, mm, ⟨hour, hour_le⟩, ⟨minute, minute_le⟩, by rw [List.append_nil], ?_⟩
    split <;> omega
  · rintro ⟨hours, minutes, hh, mm, ⟨hour, hour_le⟩, ⟨minute, minute_le⟩, rfl, rfl⟩
    refine ⟨hours, _, ⟨hh, hour, rfl⟩, _, rfl, minutes, [], ⟨mm, minute, (List.append_nil mm).symm⟩,
      ⟨rfl, hour_le, minute_le⟩, ?_⟩
    split <;> omega

theorem offset?_of_plus (after : List Char) : offset? ('+' :: after) = clock? false after :=
  rfl

theorem offset?_of_minus {sign : Char} (minus : sign = '-' ∨ sign = '\u2212') (after : List Char) :
    offset? (sign :: after) = clock? true after := by
  rcases minus with rfl | rfl <;> rfl

/-- An offset begins with a letter of its own or with a sign. -/
theorem sign_of_offset? {sign : Char} {after : List Char} {o : Int}
    (read : offset? (sign :: after) = some o) :
    ((sign = 'Z' ∨ sign = 'z') ∧ after = [] ∧ o = 0) ∨ sign = '+' ∨ sign = '-' ∨ sign = '\u2212' := by
  unfold offset? at read
  split at read
  · next same =>
    cases same
    cases read
    exact .inl ⟨.inl rfl, rfl, rfl⟩
  · next same =>
    cases same
    cases read
    exact .inl ⟨.inr rfl, rfl, rfl⟩
  · next same =>
    cases same
    refine .inr ?_
    split at read
    · next plus => exact .inl plus
    split at read
    · next minus => exact .inr minus
    · cases read
  · next none => cases none

theorem offset?_eq_some_iff {o : Int} :
    offset? cs = some o ↔ ∃ minutes, IsOffset minutes cs ∧ o = 60 * minutes := by
  constructor
  · intro read
    cases cs with
    | nil => cases read
    | cons sign after =>
      obtain ⟨letter, rfl, rfl⟩ | rfl | minus := sign_of_offset? read
      · exact ⟨0, .zulu letter, rfl⟩
      · rw [offset?_of_plus, clock?_eq_some_iff] at read
        rcases read with ⟨hours, minutes, hh, mm, ⟨hour, hour_le⟩, ⟨minute, minute_le⟩, rfl, rfl⟩
        exact ⟨_, .east hour hour_le minute minute_le, rfl⟩
      · rw [offset?_of_minus minus, clock?_eq_some_iff] at read
        rcases read with ⟨hours, minutes, hh, mm, ⟨hour, hour_le⟩, ⟨minute, minute_le⟩, rfl, rfl⟩
        exact ⟨_, .west minus hour hour_le minute minute_le, rfl⟩
  · rintro ⟨minutes, isOffset, rfl⟩
    cases isOffset with
    | zulu letter => rcases letter with rfl | rfl <;> rfl
    | east hour hour_le minute minute_le =>
      rw [offset?_of_plus, clock?_eq_some_iff]
      exact ⟨_, _, _, _, ⟨hour, hour_le⟩, ⟨minute, minute_le⟩, rfl, rfl⟩
    | west minus hour hour_le minute minute_le =>
      rw [offset?_of_minus minus, clock?_eq_some_iff]
      exact ⟨_, _, _, _, ⟨hour, hour_le⟩, ⟨minute, minute_le⟩, rfl, rfl⟩

end Parts

/-! ## Reading the whole -/

section Whole

variable {cs : List Char} {c : Civil} {o : Int}

theorem bind_fixed?_eq_some_iff {α : Type} {width : Nat} {next : Nat × List Char → Option α} {x : α} :
    fixed? width cs >>= next = some x ↔
      ∃ n ds rest, Numeral width n ds ∧ cs = ds ++ rest ∧ next (n, rest) = some x := by
  rw [Option.bind_eq_bind, Option.bind_eq_some_iff]
  constructor
  · rintro ⟨⟨n, rest⟩, read, later⟩
    obtain ⟨ds, numeral, rfl⟩ := fixed?_eq_some_iff.mp read
    exact ⟨n, ds, rest, numeral, rfl, later⟩
  · rintro ⟨n, ds, rest, numeral, rfl, later⟩
    exact ⟨(n, rest), fixed?_eq_some_iff.mpr ⟨ds, numeral, rfl⟩, later⟩

theorem bind_skip?_eq_some_iff {α : Type} {mark : Char} {next : List Char → Option α} {x : α} :
    skip? mark cs >>= next = some x ↔ ∃ rest, cs = mark :: rest ∧ next rest = some x := by
  simp only [Option.bind_eq_bind, Option.bind_eq_some_iff, skip?_eq_some_iff]

theorem bind_separator?_eq_some_iff {α : Type} {next : List Char → Option α} {x : α} :
    separator? cs >>= next = some x ↔
      ∃ m rest, (m = 'T' ∨ m = 't' ∨ m = ' ') ∧ cs = m :: rest ∧ next rest = some x := by
  rw [Option.bind_eq_bind, Option.bind_eq_some_iff]
  constructor
  · rintro ⟨rest, read, later⟩
    obtain ⟨m, mark, rfl⟩ := separator?_eq_some_iff.mp read
    exact ⟨m, rest, mark, rfl, later⟩
  · rintro ⟨m, rest, mark, rfl, later⟩
    exact ⟨rest, separator?_eq_some_iff.mpr ⟨m, mark, rfl⟩, later⟩

/-- What is read as a timestamp is one, and every timestamp is read as what it spells. -/
theorem read?_eq_some_iff :
    read? cs = some (c, o) ↔ ∃ minutes, Spells c minutes cs ∧ o = 60 * minutes := by
  constructor
  · intro read
    unfold read? at read
    rw [bind_fixed?_eq_some_iff] at read
    rcases read with ⟨year, yyyy, _, isYear, rfl, read⟩
    rw [bind_skip?_eq_some_iff] at read
    rcases read with ⟨_, rfl, read⟩
    rw [bind_fixed?_eq_some_iff] at read
    rcases read with ⟨month, mo, _, isMonth, rfl, read⟩
    rw [bind_skip?_eq_some_iff] at read
    rcases read with ⟨_, rfl, read⟩
    rw [bind_fixed?_eq_some_iff] at read
    rcases read with ⟨day, dd, _, isDay, rfl, read⟩
    rw [bind_separator?_eq_some_iff] at read
    rcases read with ⟨separator, _, separates, rfl, read⟩
    rw [bind_fixed?_eq_some_iff] at read
    rcases read with ⟨hour, hh, _, isHour, rfl, read⟩
    rw [bind_skip?_eq_some_iff] at read
    rcases read with ⟨_, rfl, read⟩
    rw [bind_fixed?_eq_some_iff] at read
    rcases read with ⟨minute, mi, _, isMinute, rfl, read⟩
    rw [bind_skip?_eq_some_iff] at read
    rcases read with ⟨_, rfl, read⟩
    rw [bind_fixed?_eq_some_iff] at read
    rcases read with ⟨second, ss, _, isSecond, rfl, read⟩
    rw [Option.bind_eq_bind, Option.bind_eq_some_iff] at read
    rcases read with ⟨⟨nanos, zone⟩, fraction, read⟩
    obtain ⟨fraction, isFraction, rfl⟩ := exists_of_fraction? fraction
    rw [Option.bind_eq_bind, Option.bind_eq_some_iff] at read
    rcases read with ⟨_, offset, read⟩
    obtain ⟨minutes, isOffset, rfl⟩ := offset?_eq_some_iff.mp offset
    dsimp only at read
    split at read
    · next valid =>
      cases read
      exact ⟨minutes, .timestamp valid isYear isMonth isDay separates isHour isMinute isSecond
        isFraction isOffset, rfl⟩
    · cases read
  · rintro ⟨minutes, spells, rfl⟩
    cases spells with
    | timestamp valid isYear isMonth isDay separates isHour isMinute isSecond isFraction isOffset =>
      refine bind_fixed?_eq_some_iff.mpr ⟨_, _, _, isYear, rfl, ?_⟩
      refine bind_skip?_eq_some_iff.mpr ⟨_, rfl, ?_⟩
      refine bind_fixed?_eq_some_iff.mpr ⟨_, _, _, isMonth, rfl, ?_⟩
      refine bind_skip?_eq_some_iff.mpr ⟨_, rfl, ?_⟩
      refine bind_fixed?_eq_some_iff.mpr ⟨_, _, _, isDay, rfl, ?_⟩
      refine bind_separator?_eq_some_iff.mpr ⟨_, _, separates, rfl, ?_⟩
      refine bind_fixed?_eq_some_iff.mpr ⟨_, _, _, isHour, rfl, ?_⟩
      refine bind_skip?_eq_some_iff.mpr ⟨_, rfl, ?_⟩
      refine bind_fixed?_eq_some_iff.mpr ⟨_, _, _, isMinute, rfl, ?_⟩
      refine bind_skip?_eq_some_iff.mpr ⟨_, rfl, ?_⟩
      refine bind_fixed?_eq_some_iff.mpr ⟨_, _, _, isSecond, rfl, ?_⟩
      refine Option.bind_eq_some_iff.mpr ⟨_, fraction?_append isFraction isOffset.ends, ?_⟩
      refine Option.bind_eq_some_iff.mpr ⟨_, offset?_eq_some_iff.mpr ⟨_, isOffset, rfl⟩, ?_⟩
      exact if_pos valid

theorem spells_iff {minutes : Int} : Spells c minutes cs ↔ read? cs = some (c, 60 * minutes) := by
  rw [read?_eq_some_iff]
  constructor
  · intro spells
    exact ⟨minutes, spells, rfl⟩
  · rintro ⟨other, spells, same⟩
    rwa [show minutes = other by omega]

theorem IsOffset.last {minutes : Int} (isOffset : IsOffset minutes cs) :
    ∃ c, cs.getLast? = some c ∧ ¬ isBlankChar c := by
  have digit : ∀ {n : Nat} {mm : List Char}, Numeral 2 n mm → ∀ front : List Char,
      ∃ c, (front ++ mm).getLast? = some c ∧ ¬ isBlankChar c := by
    intro n mm minute front
    have some := minute.ne_nil (by decide)
    refine ⟨mm.getLast some, ?_, not_isBlankChar_of_isDigit (minute.digits _ (List.getLast_mem some))⟩
    rw [List.getLast?_append_of_ne_nil _ some, List.getLast?_eq_getLast_of_ne_nil some]
  cases isOffset with
  | zulu letter => rcases letter with rfl | rfl <;> exact ⟨_, rfl, by decide⟩
  | east _ _ minute =>
    rw [List.append_cons, ← List.cons_append]
    exact digit minute _
  | west _ _ _ minute =>
    rw [List.append_cons, ← List.cons_append]
    exact digit minute _

theorem Spells.trimChars_eq {minutes : Int} (spells : Spells c minutes cs) : trimChars cs = cs := by
  cases spells with
  | timestamp valid isYear isMonth isDay separates isHour isMinute isSecond isFraction isOffset =>
    apply trimChars_eq_self
    · intro first head
      obtain ⟨y, rest, rfl⟩ := List.exists_cons_of_ne_nil (isYear.ne_nil (by decide))
      cases head
      exact not_isBlankChar_of_isDigit (isYear.digits _ List.mem_cons_self)
    · intro last tail
      obtain ⟨z, ends, visible⟩ := isOffset.last
      simp only [List.getLast?_append, List.getLast?_cons, ends, Option.some_or, Option.getD_some,
        Option.mem_some] at tail
      rwa [← tail]

end Whole

end TypedFilters.Rfc3339
