import TypedFilters.Time.Civil

/-!
# Time zones

A time zone is a chronological list of changes of the offset from UTC, with the offset that holds
before the first of them. The changes cut the time line into contiguous spans of constant offset.
On the clocks of the zone spans may overlap, and may leave seconds out between them.
`Zone.localOffsets` looks up by which offsets clocks show a second: a binary search finds one span in
which they do, and then the spans next to it are looked at.
-/

namespace TypedFilters

/-- A stretch of seconds, unbounded where it has no start or no stop. -/
structure Span where
  start? : Option Int
  stop? : Option Int
  deriving DecidableEq, Repr

namespace Span

/-- The second is not before the start, and before the stop. -/
def contains (span : Span) (x : Int) : Bool :=
  span.start?.all (· ≤ x) && span.stop?.all (x < ·)

/-- How a span compares to a second: it contains it, stops before it, or else is taken to start after
it. -/
def compare (span : Span) (x : Int) : Ordering :=
  if span.contains x then .eq
  else if span.start?.all (· ≤ x) && span.stop?.any (· ≤ x) then .lt
  else .gt

end Span

/-- An index from `start` on and before `stop` that compares as equal, sought by halves. -/
def binarySearch (compare : Nat → Ordering) (start stop : Nat) : Option Nat :=
  if stop ≤ start then none
  else
    let half := start + (stop - start) / 2
    match compare half with
    | .gt => binarySearch compare start half
    | .eq => some half
    | .lt => binarySearch compare (half + 1) stop
termination_by stop - start

/-- What a local time stands for: nothing, one thing, or either of two. -/
inductive LocalResult (α : Type) where
  | none
  | single (only : α)
  | ambiguous (earliest latest : α)
  deriving DecidableEq, Repr

namespace LocalResult

variable {α β : Type}

/-- The earliest of the things that a local time stands for. -/
def earliest? : LocalResult α → Option α
  | .none => .none
  | .single only => some only
  | .ambiguous earliest _ => some earliest

/-- A function applied to all that a local time stands for, which has to give an answer each time. -/
def andThen (f : α → Option β) : LocalResult α → LocalResult β
  | .none => .none
  | .single only =>
    match f only with
    | some b => .single b
    | _ => .none
  | .ambiguous earliest latest =>
    match f earliest, f latest with
    | some b, some b' => .ambiguous b b'
    | _, _ => .none

end LocalResult

/-- A change of offset: the second since the epoch at which it happens, and the new offset in
seconds east of UTC. -/
structure OffsetChange where
  since : Int
  offset : Int
  deriving DecidableEq, Repr, Inhabited

/-- A named zone: the offset before the first change, and the changes in order of time. -/
structure Zone where
  name : String
  firstOffset : Int
  changes : List OffsetChange
  deriving DecidableEq, Repr, Inhabited

namespace Zone

/-- The offsets of the spans. -/
def offsets (zone : Zone) : List Int :=
  zone.firstOffset :: zone.changes.map OffsetChange.offset

/-- The offset of a span by its index. -/
def spanOffset (zone : Zone) (i : Nat) : Int :=
  zone.offsets.getD i zone.firstOffset

/-- The second since the epoch at which a span starts; the first one has no start. -/
def spanStart? (zone : Zone) : Nat → Option Int
  | 0 => none
  | i + 1 => zone.changes[i]?.map OffsetChange.since

/-- A span as the clocks of the zone show it. -/
def localSpan (zone : Zone) (i : Nat) : Span where
  start? := (zone.spanStart? i).map (· + zone.spanOffset i)
  stop? := (zone.spanStart? (i + 1)).map (· + zone.spanOffset i)

/-- The offset of a span that contains a second, and of the span before or else after it that contains
the second as well. -/
def offsetsAround (zone : Zone) (shown : Int) (i : Nat) : LocalResult Int :=
  if 0 < i ∧ (zone.localSpan (i - 1)).contains shown then
    .ambiguous (zone.spanOffset (i - 1)) (zone.spanOffset i)
  else if i < zone.changes.length ∧ (zone.localSpan (i + 1)).contains shown then
    .ambiguous (zone.spanOffset i) (zone.spanOffset (i + 1))
  else .single (zone.spanOffset i)

/-- The offsets by which the clocks of the zone show a second. -/
def localOffsets (zone : Zone) (shown : Int) : LocalResult Int :=
  match binarySearch (fun i => (zone.localSpan i).compare shown) 0 (zone.changes.length + 1) with
  | none => .none
  | some i => zone.offsetsAround shown i

/-- The offset that holds at an instant. -/
def offsetAt (zone : Zone) (utc : Int) : Int :=
  ((zone.changes.takeWhile fun c => c.since ≤ utc).getLast?.map OffsetChange.offset).getD
    zone.firstOffset

end Zone

end TypedFilters
