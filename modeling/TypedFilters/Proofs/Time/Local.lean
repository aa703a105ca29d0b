import TypedFilters.Proofs.Time.Skeleton

/-!
# The usual forms of local date-times

A local date-time is usually written `YYYY-MM-DDTHH:MM:SS` with a fraction or without, with a space for
the `T`, to the minute only, or as a date only (`LocalTime.Spells`). One of the formats reads it as the
civil time that it spells, so its instant is that of this time in the zone (`instant?_of_spells`).
-/

namespace TypedFilters.LocalTime

open Text

/-! ## The usual forms -/

/-- The form `YYYY-MM-DD`. -/
inductive SpellsDate : Nat → Nat → Nat → List Char → Prop
  | text {year month day : Nat} {yyyy mo dd : List Char} (isYear : Numeral 4 year yyyy)
      (isMonth : Numeral 2 month mo) (isDay : Numeral 2 day dd) :
      SpellsDate year month day (yyyy ++ '-' :: (mo ++ '-' :: dd))

/-- The form `HH:MM`. -/
inductive SpellsMinute : Nat → Nat → List Char → Prop
  | text {hour minute : Nat} {hh mi : List Char} (isHour : Numeral 2 hour hh)
      (isMinute : Numeral 2 minute mi) : SpellsMinute hour minute (hh ++ ':' :: mi)

/-- The form `HH:MM:SS` with a fraction or without, which is given in nanoseconds. -/
inductive SpellsSecond : Nat → Nat → Nat → Nat → List Char → Prop
  | text {hour minute second nanos : Nat} {clock ss fraction : List Char}
      (isClock : SpellsMinute hour minute clock) (isSecond : Numeral 2 second ss)
      (isFraction : Rfc3339.IsFraction nanos fraction) :
      SpellsSecond hour minute second nanos (clock ++ ':' :: (ss ++ fraction))

/-- The characters are a local date-time in a usual form, whose fields need not name an existing time. -/
inductive Spells : Civil → List Char → Prop
  | second {year month day hour minute second nanos : Nat} {date time : List Char} {separator : Char}
      (isDate : SpellsDate year month day date) (separates : separator = 'T' ∨ separator = ' ')
      (isTime : SpellsSecond hour minute second nanos time) :
      Spells ⟨year, month, day, hour, minute, second, nanos⟩ (date ++ separator :: time)
  | minute {year month day hour minute : Nat} {date clock : List Char}
      (isDate : SpellsDate year month day date) (isClock : SpellsMinute hour minute clock) :
      Spells ⟨year, month, day, hour, minute, 0, 0⟩ (date ++ 'T' :: clock)
  | date {year month day : Nat} {date : List Char} (isDate : SpellsDate year month day date) :
      Spells ⟨year, month, day, 0, 0, 0, 0⟩ date

section Forms

variable {cs rest : List Char} {c : Civil}

theorem dropWhile_isBlankChar_append {width n : Nat} {ds : List Char} (numeral : Numeral width n ds)
    (pos : 0 < width) : (ds ++ rest).dropWhile isBlankChar = ds ++ rest := by
  obtain ⟨d, ds, rfl⟩ := List.exists_cons_of_ne_nil (numeral.ne_nil pos)
  exact List.dropWhile_cons_of_neg (not_isBlankChar_of_isDigit (numeral.digits d List.mem_cons_self))

/-- A numeral of the full width is read whatever follows. -/
theorem upTo?_append {width n : Nat} {ds : List Char} (numeral : Numeral width n ds) (pos : 0 < width) :
    upTo? width ((ds ++ rest).dropWhile isBlankChar) = some (n, rest) := by
  rw [dropWhile_isBlankChar_append numeral pos]
  have some := numeral.ne_nil pos
  rcases numeral with ⟨rfl, digits, rfl⟩
  rw [upTo?, List.take_left, List.takeWhile_eq_self_iff.mpr digits, List.drop_left,
    if_neg (mt List.isEmpty_iff.mp some)]

theorem year?_append {year : Nat} {ds : List Char} (numeral : Numeral 4 year ds) :
    year? ((ds ++ rest).dropWhile isBlankChar) = some ((year : Int), rest) := by
  have noSign : ∀ sign after, ¬ isDigit sign → (ds ++ rest).dropWhile isBlankChar ≠ sign :: after := by
    intro sign after other same
    rw [dropWhile_isBlankChar_append numeral (by decide)] at same
    obtain ⟨d, ds, rfl⟩ := List.exists_cons_of_ne_nil (numeral.ne_nil (by decide))
    obtain rfl := (List.cons.inj same).1
    exact other (numeral.digits d List.mem_cons_self)
  unfold year?
  split
  · next same => exact absurd same (noSign '-' _ (by decide))
  · next same => exact absurd same (noSign '+' _ (by decide))
  · rw [upTo?_append numeral (by decide), Option.map_some]

/-- A part is read, and then the parts behind it. -/
theorem readParts?_cons {p : Part} {c' : Civil} (parts : List Part)
    (read : p.read? c cs = some (c', rest)) :
    readParts? (p :: parts) c cs = readParts? parts c' rest := by
  rw [readParts?, read]
  rfl

theorem readParts?_mark (parts : List Part) (m : Char) :
    readParts? (.mark m :: parts) c (m :: rest) = readParts? parts c rest := by
  refine readParts?_cons parts ?_
  rw [Part.read?, Rfc3339.skip?_eq_some_iff.mpr rfl, Option.map_some]

theorem readParts?_blanks (parts : List Part) :
    readParts? (.blanks :: parts) c cs = readParts? parts c (cs.dropWhile isBlankChar) :=
  readParts?_cons parts rfl

theorem readParts?_date {year month day : Nat} {date : List Char} (parts : List Part)
    (isDate : SpellsDate year month day date) :
    readParts? (dateParts ++ parts) c (date ++ rest) =
      readParts? parts { c with year := year, month := month, day := day } rest := by
  cases isDate with
  | text isYear isMonth isDay =>
    simp only [dateParts, List.append_assoc, List.cons_append, List.nil_append]
    rw [readParts?_cons _ (by rw [Part.read?, year?_append isYear, Option.map_some]), readParts?_mark,
      readParts?_cons _ (by rw [Part.read?, upTo?_append isMonth (by decide), Option.map_some]),
      readParts?_mark,
      readParts?_cons _ (by rw [Part.read?, upTo?_append isDay (by decide), Option.map_some])]

theorem readParts?_clock {hour minute : Nat} {clock : List Char} (parts : List Part)
    (isClock : SpellsMinute hour minute clock) :
    readParts? (clockParts ++ parts) c (clock ++ rest) =
      readParts? parts { c with hour := hour, minute := minute } rest := by
  cases isClock with
  | text isHour isMinute =>
    simp only [clockParts, List.append_assoc, List.cons_append, List.nil_append]
    rw [readParts?_cons _ (by rw [Part.read?, upTo?_append isHour (by decide), Option.map_some]),
      readParts?_mark,
      readParts?_cons _ (by rw [Part.read?, upTo?_append isMinute (by decide), Option.map_some])]

theorem readParts?_time {hour minute second nanos : Nat} {time : List Char}
    (isTime : SpellsSecond hour minute second nanos time) :
    readParts? (clockParts ++ [.mark ':', .second, .fraction]) c time =
      some { c with hour := hour, minute := minute, second := second, nanos := nanos } := by
  cases isTime with
  | text isClock isSecond isFraction =>
    have read := @Rfc3339.fraction?_append [] _ _ isFraction nofun
    rw [List.append_nil] at read
    rw [readParts?_clock _ isClock, readParts?_mark,
      readParts?_cons _ (by rw [Part.read?, upTo?_append isSecond (by decide), Option.map_some]),
      readParts?_cons _ (by rw [Part.read?, read, Option.map_some])]
    rfl

theorem dropWhile_isBlankChar_of_spellsSecond {hour minute second nanos : Nat} {time : List Char}
    (isTime : SpellsSecond hour minute second nanos time) :
    (' ' :: time).dropWhile isBlankChar = time := by
  rw [List.dropWhile_cons_of_pos (by decide)]
  cases isTime with
  | text isClock =>
    cases isClock with
    | text isHour =>
      simp only [List.append_assoc]
      exact dropWhile_isBlankChar_append isHour (by decide)

/-- A text in a usual form is read in one of the formats. -/
theorem Spells.exists_format (spells : Spells c cs) :
    ∃ parts ∈ formats, readParts? parts Civil.start cs = some c := by
  cases spells with
  | second isDate separates isTime =>
    rcases separates with rfl | rfl
    · refine ⟨dateParts ++ .mark 'T' :: (clockParts ++ [.mark ':', .second, .fraction]), by decide, ?_⟩
      rw [readParts?_date _ isDate, readParts?_mark, readParts?_time isTime]
    · refine ⟨dateParts ++ .blanks :: (clockParts ++ [.mark ':', .second, .fraction]), by decide, ?_⟩
      rw [readParts?_date _ isDate, readParts?_blanks, dropWhile_isBlankChar_of_spellsSecond isTime,
        readParts?_time isTime]
  | @minute _ _ _ _ _ _ clock isDate isClock =>
    refine ⟨dateParts ++ .mark 'T' :: (clockParts ++ []), by decide, ?_⟩
    rw [readParts?_date _ isDate, readParts?_mark, ← List.append_nil clock, readParts?_clock [] isClock]
    rfl
  | date isDate =>
    refine ⟨dateParts ++ [], by decide, ?_⟩
    rw [← List.append_nil cs, readParts?_date [] isDate]
    rfl

/-- The instant of a text in a usual form is that of the civil time that it spells. -/
theorem instant?_of_spells (zone : Zone) (spells : Spells c cs) :
    instant? zone cs = ((some c).filter Civil.isValid).bind zone.instant? := by
  obtain ⟨parts, known, read⟩ := spells.exists_format
  exact instant?_of_readParts? zone known read

/-! ## Both ends of a usual form -/

/-- The last character is not blank. -/
def EndsVisible (cs : List Char) : Prop :=
  ∃ c, cs.getLast? = some c ∧ ¬ isBlankChar c

theorem EndsVisible.append (front : List Char) (ends : EndsVisible cs) : EndsVisible (front ++ cs) := by
  rcases ends with ⟨c, last, visible⟩
  exact ⟨c, by rw [List.getLast?_append, last, Option.some_or], visible⟩

theorem EndsVisible.cons (c : Char) (ends : EndsVisible cs) : EndsVisible (c :: cs) :=
  ends.append [c]

theorem endsVisible_of_digits (some : cs ≠ []) (digits : ∀ d ∈ cs, isDigit d) : EndsVisible cs :=
  ⟨cs.getLast some, List.getLast?_eq_getLast_of_ne_nil some,
    not_isBlankChar_of_isDigit (digits _ (List.getLast_mem some))⟩

theorem endsVisible_of_numeral {n : Nat} (numeral : Numeral 2 n cs) : EndsVisible cs :=
  endsVisible_of_digits (numeral.ne_nil (by decide)) numeral.digits

theorem endsVisible_of_spellsDate {year month day : Nat} (isDate : SpellsDate year month day cs) :
    EndsVisible cs := by
  cases isDate with
  | text _ _ isDay => exact ((((endsVisible_of_numeral isDay).cons '-').append _).cons '-').append _

theorem endsVisible_of_spellsMinute {hour minute : Nat} (isClock : SpellsMinute hour minute cs) :
    EndsVisible cs := by
  cases isClock with
  | text _ isMinute => exact ((endsVisible_of_numeral isMinute).cons ':').append _

theorem endsVisible_of_spellsSecond {hour minute second nanos : Nat}
    (isTime : SpellsSecond hour minute second nanos cs) : EndsVisible cs := by
  cases isTime with
  | text _ isSecond isFraction =>
    cases isFraction with
    | none =>
      rw [List.append_nil]
      exact ((endsVisible_of_numeral isSecond).cons ':').append _
    | digits some all => exact ((((endsVisible_of_digits some all).cons '.').append _).cons ':').append _

theorem exists_digit_of_spellsDate {year month day : Nat} (isDate : SpellsDate year month day cs) :
    ∃ d ds, cs = d :: ds ∧ isDigit d := by
  cases isDate with
  | text isYear =>
    obtain ⟨d, ds, rfl⟩ := List.exists_cons_of_ne_nil (isYear.ne_nil (by decide))
    exact ⟨d, _, rfl, isYear.digits d List.mem_cons_self⟩

theorem trimChars_date_append {year month day : Nat} {date : List Char}
    (isDate : SpellsDate year month day date) (ends : EndsVisible (date ++ rest)) :
    trimChars (date ++ rest) = date ++ rest := by
  obtain ⟨d, ds, rfl, digit⟩ := exists_digit_of_spellsDate isDate
  apply trimChars_eq_self
  · rintro _ ⟨⟩
    exact not_isBlankChar_of_isDigit digit
  · rcases ends with ⟨c, last, visible⟩
    rw [last]
    rintro _ ⟨⟩
    exact visible

/-- A text in a usual form has no blanks around it. -/
theorem Spells.trimChars_eq (spells : Spells c cs) : trimChars cs = cs := by
  cases spells with
  | second isDate _ isTime =>
    exact trimChars_date_append isDate (((endsVisible_of_spellsSecond isTime).cons _).append _)
  | minute isDate isClock =>
    exact trimChars_date_append isDate (((endsVisible_of_spellsMinute isClock).cons 'T').append _)
  | date isDate =>
    have ends := endsVisible_of_spellsDate isDate
    rw [← List.append_nil cs] at ends ⊢
    exact trimChars_date_append isDate ends

end Forms

end TypedFilters.LocalTime
