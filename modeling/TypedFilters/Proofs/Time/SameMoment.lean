import TypedFilters.Proofs.Time.Local
import TypedFilters.Proofs.Time.Zone

/-!
# All spellings of a moment agree

Texts that spell the same local time are converted alike in every zone (`toUtcText?_of_localTime`), be it
with a `T` or a space, to the second, to the minute or as a date. Where the offset of the zone is a
number of minutes, writing it behind the local time names the same moment, in whatever zone that text is
read (`toUtcText?_append_offset`). `spellings_agree` brings both together.
-/

namespace TypedFilters

open Text LocalTime

section Moments

variable {zone : Zone} {c : Civil} {year month day hour minute second nanos : Nat} {minutes : Int}
  {cs date time offset : List Char} {separator : Char}

/-! ## With an offset behind the local time -/

theorem Rfc3339.bind_fixed?_append {α : Type} {width n : Nat} {ds rest : List Char}
    {next : Nat × List Char → Option α} (numeral : Numeral width n ds) :
    (fixed? width (ds ++ rest) >>= next) = next (n, rest) := by
  rw [fixed?_eq_some_iff.mpr ⟨ds, numeral, rfl⟩]
  rfl

theorem Rfc3339.bind_skip?_cons {α : Type} {m : Char} {rest : List Char}
    {next : List Char → Option α} : (skip? m (m :: rest) >>= next) = next rest := by
  rw [skip?_eq_some_iff.mpr rfl]
  rfl

/-- A local time to the second with an offset behind it is a timestamp, if it exists. -/
theorem Rfc3339.read?_append_offset (isDate : SpellsDate year month day date)
    (separates : separator = 'T' ∨ separator = ' ')
    (isTime : SpellsSecond hour minute second nanos time) (isOffset : IsOffset minutes offset) :
    read? (date ++ separator :: time ++ offset) =
      ((some (⟨year, month, day, hour, minute, second, nanos⟩ : Civil)).filter Civil.isValid).map
        fun c => (c, 60 * minutes) := by
  have ends := offset?_eq_some_iff.mpr ⟨_, isOffset, rfl⟩
  have separated : ∀ rest, separator? (separator :: rest) = some rest := by
    rcases separates with rfl | rfl <;> exact fun _ => rfl
  rcases isDate with ⟨isYear, isMonth, isDay⟩
  rcases isTime with ⟨isClock, isSecond, isFraction⟩
  rcases isClock with ⟨isHour, isMinute⟩
  simp only [List.append_assoc, List.cons_append]
  unfold read?
  refine (bind_fixed?_append isYear).trans ?_
  refine bind_skip?_cons.trans ?_
  refine (bind_fixed?_append isMonth).trans ?_
  refine bind_skip?_cons.trans ?_
  refine (bind_fixed?_append isDay).trans ?_
  refine (congrArg (Option.bind · _) (separated _)).trans ?_
  refine (bind_fixed?_append isHour).trans ?_
  refine bind_skip?_cons.trans ?_
  refine (bind_fixed?_append isMinute).trans ?_
  refine bind_skip?_cons.trans ?_
  refine (bind_fixed?_append isSecond).trans ?_
  refine (congrArg (Option.bind · _) (fraction?_append isFraction isOffset.ends)).trans ?_
  refine (congrArg (Option.bind · _) ends).trans ?_
  rw [Option.filter_some]
  dsimp only [Option.bind_some]
  split <;> rfl

theorem skeleton_of_spellsDate (isDate : SpellsDate year month day date) : skeleton date = [] := by
  have hyphen : ¬ isMark '-' := by decide
  rcases isDate with ⟨isYear, isMonth, isDay⟩
  rw [skeleton_digits_append isYear.digits, skeleton_cons_of_not_isMark hyphen,
    skeleton_digits_append isMonth.digits, skeleton_cons_of_not_isMark hyphen,
    skeleton_of_digits isDay.digits]

theorem skeleton_of_spellsSecond (isTime : SpellsSecond hour minute second nanos time) :
    skeleton time = [':', ':'] := by
  have colon : isMark ':' := by decide
  rcases isTime with ⟨isClock, isSecond, isFraction⟩
  rcases isClock with ⟨isHour, isMinute⟩
  rw [List.append_assoc, skeleton_digits_append isHour.digits, List.cons_append,
    skeleton_cons_of_isMark colon, skeleton_digits_append isMinute.digits,
    skeleton_cons_of_isMark colon, skeleton_digits_append isSecond.digits,
    skeleton_of_isFraction isFraction]

/-- With an offset behind it a local time to the second is not read as one. -/
theorem LocalTime.read?_append_offset (isDate : SpellsDate year month day date)
    (separates : separator = 'T' ∨ separator = ' ')
    (isTime : SpellsSecond hour minute second nanos time)
    (isOffset : Rfc3339.IsOffset minutes offset) :
    read? (date ++ separator :: time ++ offset) = none := by
  have front : skeleton [separator] ∈ [['T'], ['t'], []] := by
    rcases separates with rfl | rfl <;> decide
  refine read?_eq_none_of_timestampSkeleton ⟨_, front, _, skeleton_of_isOffset isOffset, ?_⟩
  rw [skeleton_append, skeleton_append, ← List.singleton_append, @skeleton_append [separator],
    skeleton_of_spellsDate isDate, skeleton_of_spellsSecond isTime]
  simp only [List.nil_append, List.append_assoc, List.cons_append]

/-- The moment of a local time with an offset behind it, if it exists. -/
theorem toUtcText?_append_offset (zone : Zone) (isDate : SpellsDate year month day date)
    (separates : separator = 'T' ∨ separator = ' ')
    (isTime : SpellsSecond hour minute second nanos time)
    (isOffset : Rfc3339.IsOffset minutes offset) :
    toUtcText? zone (String.ofList (date ++ separator :: time ++ offset)) =
      ((some (⟨year, month, day, hour, minute, second, nanos⟩ : Civil)).filter Civil.isValid).map
        fun c => (c.instant (60 * minutes)).utcText := by
  have ends : EndsVisible (date ++ (separator :: time ++ offset)) := by
    rw [← List.append_assoc]
    exact EndsVisible.append _ isOffset.last
  have trimmed := trimChars_date_append isDate ends
  rw [← List.append_assoc] at trimmed
  rw [toUtcText?, String.toList_ofList, trimmed, instant?,
    Rfc3339.read?_append_offset isDate separates isTime isOffset,
    LocalTime.read?_append_offset isDate separates isTime isOffset]
  cases (some (⟨year, month, day, hour, minute, second, nanos⟩ : Civil)).filter Civil.isValid <;> rfl

/-! ## Without an offset -/

theorem toUtcText?_of_localTime (zone : Zone) (spells : LocalTime.Spells c cs) :
    toUtcText? zone (String.ofList cs) =
      (((some c).filter Civil.isValid).bind zone.instant?).map Instant.utcText := by
  rw [toUtcText?, String.toList_ofList, spells.trimChars_eq, instant?_of_spells zone spells]

/-- The clock is ahead of UTC by the offset at the instant that is found. -/
theorem Zone.eq_instant_of_instant? (chronological : zone.IsChronological) {i : Instant}
    (found : zone.instant? c = some i) : i = c.instant (zone.offsetAt i.seconds) := by
  obtain ⟨offset, among, rfl⟩ := Zone.exists_of_instant? found
  have shows := Zone.clock_of_mem_localOffsets chronological among
  have holds : zone.offsetAt (c.seconds - offset) = offset := by
    rw [clock] at shows
    omega
  have seconds : (c.instant offset).seconds = c.seconds - offset := rfl
  rw [seconds, holds]

theorem Zone.utc_instant? (valid : c.isValid) : Zone.utc.instant? c = some (c.instant 0) := by
  have inRange : Civil.yearInRange (c.instant 0).civil.year := by
    rw [Civil.civil_instant valid]
    exact ((Civil.isValid_iff c).mp valid).1
  have given : c.instantInRange? 0 = some (c.instant 0) := if_pos inRange
  rw [Zone.instant?, utc, localOffsets_of_no_changes, LocalResult.andThen, given]
  rfl

/-- Where the offset of the zone is a number of minutes, the local time with that offset behind it is the
same moment. -/
theorem toUtcText?_append_offset_of_instant? {zone' : Zone} {i : Instant}
    (chronological : zone.IsChronological) (isDate : SpellsDate year month day date)
    (separates : separator = 'T' ∨ separator = ' ')
    (isTime : SpellsSecond hour minute second nanos time)
    (found : ((some (⟨year, month, day, hour, minute, second, nanos⟩ : Civil)).filter
      Civil.isValid).bind zone.instant? = some i)
    (minutes_eq : zone.offsetAt i.seconds = 60 * minutes)
    (isOffset : Rfc3339.IsOffset minutes offset) :
    toUtcText? zone' (String.ofList (date ++ separator :: time ++ offset)) = some i.utcText := by
  obtain ⟨c, exists_c, found⟩ := Option.bind_eq_some_iff.mp found
  have same := Zone.eq_instant_of_instant? chronological found
  rw [minutes_eq] at same
  rw [toUtcText?_append_offset zone' isDate separates isTime isOffset, exists_c, Option.map_some, same]

/-! ## All spellings -/

theorem numeral_zero_zero : Numeral 2 0 ['0', '0'] := by
  decide

/-- A local time to the second is converted to the text that it is converted to with its offset behind it,
in any zone, if that is a number of minutes; in UTC a `Z` says so. A space may stand for the `T`, and zeros
that are left out at the end may be written. -/
theorem spellings_agree {hour' minute' : Nat} {clock : List Char}
    (isDate : SpellsDate year month day date) (isTime : SpellsSecond hour minute second nanos time)
    (isClock : SpellsMinute hour' minute' clock) :
    (∀ separator, separator = 'T' ∨ separator = ' ' →
      (∀ zone s, zone.IsChronological →
        toUtcText? zone (String.ofList (date ++ separator :: time)) = some s →
        ∃ i, instant? zone (date ++ separator :: time) = some i ∧ i.utcText = s ∧
          ∀ minutes offset, zone.offsetAt i.seconds = 60 * minutes → Rfc3339.IsOffset minutes offset →
            ∀ zone', toUtcText? zone' (String.ofList (date ++ separator :: time ++ offset)) = some s) ∧
      ∀ zone', toUtcText? Zone.utc (String.ofList (date ++ separator :: time)) =
        toUtcText? zone' (String.ofList (date ++ separator :: time ++ ['Z']))) ∧
    ∀ zone,
      toUtcText? zone (String.ofList (date ++ 'T' :: time)) =
        toUtcText? zone (String.ofList (date ++ ' ' :: time)) ∧
      toUtcText? zone (String.ofList (date ++ 'T' :: clock)) =
        toUtcText? zone (String.ofList (date ++ 'T' :: clock ++ ":00".toList)) ∧
      toUtcText? zone (String.ofList date) =
        toUtcText? zone (String.ofList (date ++ "T00:00:00".toList)) := by
  refine ⟨fun separator separates => ⟨fun zone s chronological utc => ?_, fun zone' => ?_⟩, fun zone => ?_⟩
  · have spells := LocalTime.Spells.second isDate separates isTime
    rw [toUtcText?_of_localTime zone spells] at utc
    obtain ⟨i, found, rfl⟩ := Option.map_eq_some_iff.mp utc
    refine ⟨i, (instant?_of_spells zone spells).trans found, rfl, ?_⟩
    intro minutes offset minutes_eq isOffset zone'
    exact toUtcText?_append_offset_of_instant? chronological isDate separates isTime found minutes_eq
      isOffset
  · rw [toUtcText?_of_localTime Zone.utc (.second isDate separates isTime),
      toUtcText?_append_offset zone' isDate separates isTime (.zulu (.inl rfl))]
    cases existing : (some (⟨year, month, day, hour, minute, second, nanos⟩ : Civil)).filter
        Civil.isValid with
    | none => rfl
    | some c =>
      rw [Option.bind_some, Zone.utc_instant? (Option.filter_eq_some_iff.mp existing).2]
      rfl
  · have isFull : SpellsSecond hour' minute' 0 0 (clock ++ ":00".toList) :=
      .text isClock numeral_zero_zero .none
    have isMidnight : SpellsSecond 0 0 0 0 "00:00:00".toList :=
      .text (.text numeral_zero_zero numeral_zero_zero) numeral_zero_zero .none
    refine ⟨?_, ?_, ?_⟩
    · rw [toUtcText?_of_localTime zone (.second isDate (.inl rfl) isTime),
        toUtcText?_of_localTime zone (.second isDate (.inr rfl) isTime)]
    · rw [toUtcText?_of_localTime zone (.minute isDate isClock), List.append_assoc, List.cons_append,
        toUtcText?_of_localTime zone (.second isDate (.inl rfl) isFull)]
    · have literal : "T00:00:00".toList = 'T' :: "00:00:00".toList := rfl
      rw [toUtcText?_of_localTime zone (.date isDate), literal,
        toUtcText?_of_localTime zone (.second isDate (.inl rfl) isMidnight)]

/-- On Lord Howe Island the last summer hour is shown once more in part in winter. A leap second in it
is taken as one of summer, eleven hours ahead of UTC, and so it is named in Tokyo. -/
theorem spellings_agree_of_lord_howe :
    let zone : Zone := ⟨"Australia/Lord_Howe", 37800, [⟨1696087800, 39600⟩, ⟨1712415600, 37800⟩]⟩
    let tokyo : Zone := ⟨"Asia/Tokyo", 32400, []⟩
    let i : Instant := ⟨1712414759, 1500000000⟩
    (SpellsDate 2024 4 7 "2024-04-07".toList ∧ SpellsSecond 1 45 60 500000000 "01:45:60.5".toList ∧
        SpellsMinute 1 45 "01:45".toList) ∧
      (zone.IsChronological ∧ toUtcText? zone "2024-04-07 01:45:60.5" = some "2024-04-06T14:45:60.500Z") ∧
      (instant? zone "2024-04-07 01:45:60.5".toList = some i ∧ zone.offsetAt i.seconds = 60 * 660 ∧
        Rfc3339.IsOffset 660 "+11:00".toList) ∧
      toUtcText? tokyo "2024-04-07 01:45:60.5+11:00" = some "2024-04-06T14:45:60.500Z" ∧
      toUtcText? zone "2024-04-07T01:45" = toUtcText? zone "2024-04-07T01:45:00" := by
  intro zone tokyo i
  have isDate : SpellsDate 2024 4 7 "2024-04-07".toList :=
    @SpellsDate.text _ _ _ ['2', '0', '2', '4'] ['0', '4'] ['0', '7'] (by decide) (by decide)
      (by decide)
  have isClock : SpellsMinute 1 45 "01:45".toList :=
    @SpellsMinute.text _ _ ['0', '1'] ['4', '5'] (by decide) (by decide)
  have isTime : SpellsSecond 1 45 60 500000000 "01:45:60.5".toList :=
    @SpellsSecond.text _ _ _ _ _ ['6', '0'] ['.', '5'] isClock (by decide)
      (@Rfc3339.IsFraction.digits ['5'] (by decide) (List.all_eq_true.mp (by decide)))
  have chronological : zone.IsChronological := by decide
  have isOffset : Rfc3339.IsOffset 660 "+11:00".toList :=
    @Rfc3339.IsOffset.east 11 0 ['1', '1'] ['0', '0'] (by decide) (by decide)
      numeral_zero_zero (by decide)
  have utc : toUtcText? zone "2024-04-07 01:45:60.5" = some "2024-04-06T14:45:60.500Z" := by
    decide +kernel
  have spelled : instant? zone "2024-04-07 01:45:60.5".toList = some i := by decide +kernel
  have offset : zone.offsetAt i.seconds = 60 * 660 := by decide
  obtain ⟨moments, forms⟩ := spellings_agree isDate isTime isClock
  obtain ⟨j, found, _, agree⟩ := (moments ' ' (.inr rfl)).1 zone _ chronological utc
  obtain rfl : j = i := Option.some.inj (found.symm.trans spelled)
  exact ⟨⟨isDate, isTime, isClock⟩, ⟨chronological, utc⟩, ⟨spelled, offset, isOffset⟩,
    agree 660 _ offset isOffset tokyo, (forms zone).2.1⟩

end Moments

end TypedFilters
