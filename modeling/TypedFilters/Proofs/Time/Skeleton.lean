import TypedFilters.Proofs.Time.Timestamp

/-!
# The formats of local date-times are told apart

Without its numbers, blanks, points and signs a text keeps its skeleton, and a format reads only texts
of its own skeleton (`skeleton_of_readParts?`). The skeletons of the four formats differ, and none is that
of a timestamp. So at most one format reads a text (`format_unique`), and what a format reads is no
timestamp (`rfc3339_read?_eq_none`): the instant of such a text is found through the zone alone
(`instant?_of_readParts?`).
-/

namespace TypedFilters.LocalTime

open Text

/-! ## Skeletons -/

/-- Characters that are found neither in numbers nor between them, unless a format calls for them. -/
def isMark (c : Char) : Bool :=
  !(isDigit c || isBlankChar c || ['.', '+', '-'].contains c)

/-- The marks of a text. -/
def skeleton (cs : List Char) : List Char :=
  cs.filter isMark

/-- The marks that a format calls for. -/
def formatSkeleton (parts : List Part) : List Char :=
  skeleton <| parts.flatMap fun
    | .mark m => [m]
    | _ => []

example : formats.map formatSkeleton = [['T', ':', ':'], [':', ':'], ['T', ':'], []] := by decide

section Skeletons

variable {m : Char} {cs ds rest : List Char}

theorem skeleton_append : skeleton (cs ++ ds) = skeleton cs ++ skeleton ds :=
  List.filter_append cs ds

theorem skeleton_cons_of_isMark (mark : isMark m) : skeleton (m :: cs) = m :: skeleton cs :=
  List.filter_cons_of_pos mark

theorem skeleton_cons_of_not_isMark (filler : ¬ isMark m) : skeleton (m :: cs) = skeleton cs :=
  List.filter_cons_of_neg filler

theorem skeleton_of_digits (digits : ∀ d ∈ ds, isDigit d) : skeleton ds = [] := by
  refine List.filter_eq_nil_iff.mpr fun d inside => ?_
  simp only [isMark, digits d inside, Bool.true_or, Bool.not_true, Bool.false_eq_true,
    not_false_iff]

theorem skeleton_digits_append (digits : ∀ d ∈ ds, isDigit d) : skeleton (ds ++ rest) = skeleton rest := by
  rw [skeleton_append, skeleton_of_digits digits, List.nil_append]

theorem skeleton_dropWhile_isBlankChar : skeleton (cs.dropWhile isBlankChar) = skeleton cs := by
  have blanks : skeleton (cs.takeWhile isBlankChar) = [] := by
    refine List.filter_eq_nil_iff.mpr fun d inside => ?_
    simp only [isMark, List.mem_takeWhile_imp inside, Bool.true_or, Bool.or_true, Bool.not_true,
      Bool.false_eq_true, not_false_iff]
  conv_rhs => rw [← @List.takeWhile_append_dropWhile _ isBlankChar cs]
  rw [skeleton_append, blanks, List.nil_append]

/-! ## What a format reads has its skeleton -/

theorem skeleton_of_upTo? {width n : Nat} (read : upTo? width cs = some (n, rest)) :
    skeleton cs = skeleton rest := by
  simp only [upTo?] at read
  split at read
  · cases read
  · cases read
    have front : (cs.take width).takeWhile isDigit <+: cs :=
      (List.takeWhile_prefix isDigit).trans (List.take_prefix width cs)
    conv_lhs => rw [← List.prefix_iff_eq_append.mp front]
    exact skeleton_digits_append fun d taken => List.mem_takeWhile_imp taken

theorem skeleton_of_splitDigits {digits : List Char}
    (split : Decimal.splitDigits cs = (digits, rest)) : skeleton cs = skeleton rest := by
  obtain ⟨rfl, all, _⟩ := splitDigits_eq split
  exact skeleton_digits_append all

theorem skeleton_of_year? {n : Int} (read : year? cs = some (n, rest)) :
    skeleton cs = skeleton rest := by
  unfold year? at read
  split at read
  · next after =>
    dsimp only at read
    split at read <;> cases read
    exact (skeleton_cons_of_not_isMark (by decide)).trans (skeleton_of_splitDigits rfl)
  · next after =>
    dsimp only at read
    split at read <;> cases read
    exact (skeleton_cons_of_not_isMark (by decide)).trans (skeleton_of_splitDigits rfl)
  · obtain ⟨⟨_, _⟩, number, same⟩ := Option.map_eq_some_iff.mp read
    cases same
    exact skeleton_of_upTo? number

theorem skeleton_of_isFraction {n : Nat} (isFraction : Rfc3339.IsFraction n cs) : skeleton cs = [] := by
  cases isFraction with
  | none => rfl
  | digits _ all => rw [skeleton_cons_of_not_isMark (by decide), skeleton_of_digits all]

theorem skeleton_of_fraction? {n : Nat} (read : Rfc3339.fraction? cs = some (n, rest)) :
    skeleton cs = skeleton rest := by
  obtain ⟨front, isFraction, rfl⟩ := Rfc3339.exists_of_fraction? read
  rw [skeleton_append, skeleton_of_isFraction isFraction, List.nil_append]

/-- A part takes its own mark from a text, or none. -/
theorem skeleton_of_read? {p : Part} {c c' : Civil} (read : p.read? c cs = some (c', rest)) :
    skeleton cs = formatSkeleton [p] ++ skeleton rest := by
  cases p with
  | blanks =>
    cases read
    exact skeleton_dropWhile_isBlankChar.symm
  | mark m =>
    obtain ⟨_, found, same⟩ := Option.map_eq_some_iff.mp read
    cases same
    obtain rfl := Rfc3339.skip?_eq_some_iff.mp found
    exact @skeleton_append [m] rest
  | fraction =>
    obtain ⟨⟨_, _⟩, found, same⟩ := Option.map_eq_some_iff.mp read
    cases same
    exact skeleton_of_fraction? found
  | year =>
    obtain ⟨⟨_, _⟩, found, same⟩ := Option.map_eq_some_iff.mp read
    cases same
    exact skeleton_dropWhile_isBlankChar.symm.trans (skeleton_of_year? found)
  | month | day | hour | minute | second =>
    obtain ⟨⟨_, _⟩, found, same⟩ := Option.map_eq_some_iff.mp read
    cases same
    exact skeleton_dropWhile_isBlankChar.symm.trans (skeleton_of_upTo? found)

theorem formatSkeleton_cons (p : Part) (parts : List Part) :
    formatSkeleton (p :: parts) = formatSkeleton [p] ++ formatSkeleton parts := by
  simp only [formatSkeleton, List.flatMap_cons, List.flatMap_nil, List.append_nil, skeleton_append]

/-- A format reads only texts of its own skeleton. -/
theorem skeleton_of_readParts? {parts : List Part} {c d : Civil}
    (read : readParts? parts c cs = some d) : skeleton cs = formatSkeleton parts := by
  induction parts generalizing c cs with
  | nil =>
    simp only [readParts?] at read
    split at read
    · next empty =>
      rw [List.isEmpty_iff.mp empty]
      rfl
    · cases read
  | cons p parts ih =>
    obtain ⟨⟨_, _⟩, first, later⟩ := Option.bind_eq_some_iff.mp read
    rw [skeleton_of_read? first, ih later, ← formatSkeleton_cons]

/-! ## Skeletons of timestamps -/

theorem skeleton_of_isOffset {minutes : Int} (isOffset : Rfc3339.IsOffset minutes cs) :
    skeleton cs ∈ [['Z'], ['z'], [':'], ['\u2212', ':']] := by
  have clock : ∀ {hours minutes hh mm}, Numeral 2 hours hh → Numeral 2 minutes mm →
      skeleton (hh ++ ':' :: mm) = [':'] := by
    intro _ _ hh mm hour minute
    rw [skeleton_digits_append hour.digits, skeleton_cons_of_isMark (by decide),
      skeleton_of_digits minute.digits]
  cases isOffset with
  | zulu letter => rcases letter with rfl | rfl <;> decide
  | east hour _ minute _ =>
    rw [skeleton_cons_of_not_isMark (by decide), clock hour minute]
    decide
  | west minus hour _ minute _ =>
    rcases minus with rfl | rfl
    · rw [skeleton_cons_of_not_isMark (by decide), clock hour minute]
      decide
    · rw [skeleton_cons_of_isMark (by decide), clock hour minute]
      decide

/-- The marks of a timestamp: perhaps a letter, two colons, and a letter or another colon. -/
def TimestampSkeleton (marks : List Char) : Prop :=
  ∃ front ∈ [['T'], ['t'], []], ∃ back ∈ [['Z'], ['z'], [':'], ['\u2212', ':']],
    marks = front ++ ':' :: ':' :: back

theorem timestampSkeleton_of_spells {c : Civil} {minutes : Int} (spells : Rfc3339.Spells c minutes cs) :
    TimestampSkeleton (skeleton cs) := by
  cases spells with
  | @timestamp _ _ _ _ _ _ _ _ separator _ _ _ _ _ _ _ zone _ isYear isMonth isDay separates isHour
      isMinute isSecond isFraction isOffset =>
    have hyphen : ¬ isMark '-' := by decide
    have colon : isMark ':' := by decide
    have front : skeleton [separator] ∈ [['T'], ['t'], []] := by
      rcases separates with rfl | rfl | rfl <;> decide
    refine ⟨_, front, _, skeleton_of_isOffset isOffset, ?_⟩
    rw [skeleton_digits_append isYear.digits, skeleton_cons_of_not_isMark hyphen,
      skeleton_digits_append isMonth.digits, skeleton_cons_of_not_isMark hyphen,
      skeleton_digits_append isDay.digits, ← List.singleton_append, skeleton_append,
      skeleton_digits_append isHour.digits, skeleton_cons_of_isMark colon,
      skeleton_digits_append isMinute.digits, skeleton_cons_of_isMark colon,
      skeleton_digits_append isSecond.digits, skeleton_append, skeleton_of_isFraction isFraction,
      List.nil_append]

end Skeletons

/-! ## One reading -/

section Reading

variable {parts parts' : List Part} {cs : List Char} {b c d : Civil}

/-- Two formats do not read the same text. -/
theorem format_unique (known : parts ∈ formats) (known' : parts' ∈ formats)
    (read : readParts? parts b cs = some c) (read' : readParts? parts' b cs = some d) :
    parts = parts' := by
  have distinct : ∀ p ∈ formats, ∀ q ∈ formats, formatSkeleton p = formatSkeleton q → p = q := by
    decide
  exact distinct _ known _ known'
    ((skeleton_of_readParts? read).symm.trans (skeleton_of_readParts? read'))

/-- No format reads a text with the skeleton of a timestamp. -/
theorem not_timestampSkeleton (known : parts ∈ formats) (read : readParts? parts b cs = some c) :
    ¬ TimestampSkeleton (skeleton cs) := by
  have apart : ∀ front ∈ [['T'], ['t'], []], ∀ back ∈ [['Z'], ['z'], [':'], ['\u2212', ':']],
      ∀ p ∈ formats, formatSkeleton p ≠ front ++ ':' :: ':' :: back := by
    decide
  rintro ⟨front, known_front, back, known_back, same⟩
  rw [skeleton_of_readParts? read] at same
  exact apart front known_front back known_back parts known same

/-- What a format reads is no timestamp. -/
theorem rfc3339_read?_eq_none (known : parts ∈ formats) (read : readParts? parts b cs = some c) :
    Rfc3339.read? cs = none := by
  cases timestamp : Rfc3339.read? cs with
  | none => rfl
  | some spelled =>
    obtain ⟨_, spells, _⟩ := Rfc3339.read?_eq_some_iff.mp timestamp
    exact absurd (timestampSkeleton_of_spells spells) (not_timestampSkeleton known read)

theorem read?_eq_none_of_timestampSkeleton (timestamp : TimestampSkeleton (skeleton cs)) :
    read? cs = none := by
  refine List.findSome?_eq_none_iff.mpr fun parts known => ?_
  cases read : readParts? parts Civil.start cs with
  | none => rw [readFormat?, read, Option.filter_none]
  | some c => exact absurd timestamp (not_timestampSkeleton known read)

/-- The first format that reads a text is the only one. -/
theorem read?_of_readParts? (known : parts ∈ formats) (read : readParts? parts Civil.start cs = some c) :
    read? cs = (some c).filter Civil.isValid := by
  have alone : readFormat? parts cs = (some c).filter Civil.isValid := by rw [readFormat?, read]
  rw [← alone]
  cases found : read? cs with
  | none => exact (List.findSome?_eq_none_iff.mp found parts known).symm
  | some d =>
    obtain ⟨parts', known', other⟩ := List.exists_of_findSome?_eq_some found
    obtain ⟨read', _⟩ := Option.filter_eq_some_iff.mp other
    rw [format_unique known known' read read', other]

/-- The instant of what a format reads is found through the zone. -/
theorem instant?_of_readParts? (zone : Zone) (known : parts ∈ formats)
    (read : readParts? parts Civil.start cs = some c) :
    instant? zone cs = ((some c).filter Civil.isValid).bind zone.instant? := by
  rw [instant?, rfc3339_read?_eq_none known read, read?_of_readParts? known read]

end Reading

end TypedFilters.LocalTime
