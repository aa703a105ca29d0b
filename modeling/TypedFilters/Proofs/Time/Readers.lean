import Mathlib.Data.List.Nodup
import TypedFilters.Proofs.FirstMatch
import TypedFilters.Proofs.Time.Skeleton

/-!
# The readers of date-times exclude each other

A text is read as a timestamp with its offset, or as a local date-time in one of the formats. No text is
accepted by two of these readers (`TimeReader.eq_of_accepts`): the marks that a text keeps without its numbers
tell which one it can be. So it does not matter in which order they are tried (`readers_in_any_order`),
also where the only one that accepts a text finds no instant because the clocks of the zone never show the
time.
-/

namespace TypedFilters

open Text LocalTime

/-- A way of reading a text as a date-time. -/
inductive TimeReader where
  | timestamp
  | clock (format : List Part)
  deriving DecidableEq

namespace TimeReader

/-- The readers in the order in which they are tried. -/
def all : List TimeReader :=
  .timestamp :: formats.map .clock

/-- What a reader answers to a text on the clocks of a zone: nothing if it does not accept the text, and
else the instant, if there is one. -/
def read? (zone : Zone) (cs : List Char) : TimeReader → Option (Option Instant)
  | .timestamp => (Rfc3339.read? cs).map fun spelled => some (spelled.1.instant spelled.2)
  | .clock format => (readFormat? format cs).map zone.instant?

/-- A reader accepts a text when it reads a date-time in it, whatever the zone. -/
def Accepts (cs : List Char) : TimeReader → Prop
  | .timestamp => ∃ c offset, Rfc3339.read? cs = some (c, offset)
  | .clock format => ∃ c, readFormat? format cs = some c

/-- The UTC text of the instant of the trimmed text, when the readers are tried in some order. -/
def utcText? (order : List TimeReader) (zone : Zone) (s : String) : Option String :=
  (order.findSome? (read? zone (trimChars s.toList))).join.map Instant.utcText

variable {reader reader' : TimeReader} {zone : Zone} {cs : List Char}

theorem accepts_of_read? {answer : Option Instant} (read : reader.read? zone cs = some answer) :
    reader.Accepts cs := by
  cases reader with
  | timestamp =>
    obtain ⟨⟨c, offset⟩, spelled, _⟩ := Option.map_eq_some_iff.mp read
    exact ⟨c, offset, spelled⟩
  | clock format =>
    obtain ⟨c, shown, _⟩ := Option.map_eq_some_iff.mp read
    exact ⟨c, shown⟩

theorem clock_mem_all {format : List Part} : TimeReader.clock format ∈ all ↔ format ∈ formats := by
  simp only [all, List.mem_cons, reduceCtorEq, List.mem_map, clock.injEq, exists_eq_right, false_or]

theorem not_accepts_of_timestamp {format : List Part} (known : format ∈ formats)
    (timestamp : TimeReader.timestamp.Accepts cs) : ¬ (TimeReader.clock format).Accepts cs := by
  intro shown
  obtain ⟨c, offset, spelled⟩ := timestamp
  obtain ⟨d, shown⟩ := shown
  obtain ⟨read, _⟩ := Option.filter_eq_some_iff.mp shown
  cases spelled.symm.trans (rfc3339_read?_eq_none known read)

/-- No text is accepted by two readers. -/
theorem eq_of_accepts (known : reader ∈ all) (known' : reader' ∈ all) (accepts : reader.Accepts cs)
    (accepts' : reader'.Accepts cs) : reader = reader' := by
  cases reader with
  | timestamp =>
    cases reader' with
    | timestamp => rfl
    | clock format' => exact absurd accepts' (not_accepts_of_timestamp (clock_mem_all.mp known') accepts)
  | clock format =>
    cases reader' with
    | timestamp => exact absurd accepts (not_accepts_of_timestamp (clock_mem_all.mp known) accepts')
    | clock format' =>
      obtain ⟨c, shown⟩ := accepts
      obtain ⟨c', shown'⟩ := accepts'
      obtain ⟨read, _⟩ := Option.filter_eq_some_iff.mp shown
      obtain ⟨read', _⟩ := Option.filter_eq_some_iff.mp shown'
      rw [format_unique (clock_mem_all.mp known) (clock_mem_all.mp known') read read']

theorem nodup_all : all.Nodup := by
  decide

theorem agree_all (zone : Zone) (cs : List Char) : Agree (read? zone cs) all := by
  intro reader known reader' known' answer answer' read read'
  obtain rfl := eq_of_accepts known known' (accepts_of_read? read) (accepts_of_read? read')
  exact Option.some.inj (read.symm.trans read')

/-- In their own order, the readers find the instant of a text. -/
theorem join_findSome?_all (zone : Zone) (cs : List Char) :
    (all.findSome? (read? zone cs)).join = instant? zone cs := by
  rw [all, List.findSome?_cons, read?, instant?]
  cases Rfc3339.read? cs with
  | some spelled => rfl
  | none =>
    have clocks : (formats.map TimeReader.clock).findSome? (read? zone cs) =
        (LocalTime.read? cs).map zone.instant? := by
      rw [List.findSome?_map, LocalTime.read?, List.map_findSome?]
      rfl
    rw [Option.map_none]
    dsimp only
    rw [clocks]
    cases LocalTime.read? cs <;> rfl

end TimeReader

/-- Of the five readers of date-times at most one accepts a text, so the UTC text of the trimmed text is the
same in whatever order they are tried. -/
theorem readers_in_any_order :
    (∀ cs, TimeReader.all.Pairwise fun reader reader' => ¬ (reader.Accepts cs ∧ reader'.Accepts cs)) ∧
    ∀ order : List TimeReader, order.Perm TimeReader.all → ∀ zone s,
      TimeReader.utcText? order zone s = toUtcText? zone s := by
  constructor
  · intro cs
    apply List.Nodup.pairwise_of_forall_ne TimeReader.nodup_all
    intro reader known reader' known' other both
    exact other (TimeReader.eq_of_accepts known known' both.1 both.2)
  · intro order perm zone s
    rw [TimeReader.utcText?, findSome?_eq_of_perm (TimeReader.agree_all zone _) perm,
      TimeReader.join_findSome?_all, toUtcText?]

/-- Without a blank after the date the text is one of date and time all the same, and no date only. -/
theorem readers_in_any_order_of_joined_fields :
    let s := " 2024-01-1510:30:00\n"
    (TimeReader.clock secondsAfterBlanks).Accepts (trimChars s.toList) ∧
      TimeReader.all.reverse.Perm TimeReader.all ∧
      TimeReader.utcText? TimeReader.all.reverse ⟨"UTC", 0, []⟩ s = some "2024-01-15T10:30:00Z" := by
  intro s
  have accepts : (TimeReader.clock secondsAfterBlanks).Accepts (trimChars s.toList) :=
    ⟨⟨2024, 1, 15, 10, 30, 0, 0⟩, by decide +kernel⟩
  have reversed : TimeReader.all.reverse.Perm TimeReader.all := List.reverse_perm _
  have utc : toUtcText? ⟨"UTC", 0, []⟩ s = some "2024-01-15T10:30:00Z" := by decide +kernel
  refine ⟨accepts, reversed, ?_⟩
  rw [readers_in_any_order.2 _ reversed, utc]

end TypedFilters
