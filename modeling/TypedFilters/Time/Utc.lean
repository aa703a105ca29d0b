import TypedFilters.Time.Local
import TypedFilters.Time.Zone

/-!
# Normalisation of date-times to UTC

`toUtcText?` reads a text as an RFC 3339 timestamp or else as a local date-time of a zone, and writes
the instant in UTC. It answers nothing when the text is neither, and when the local time does not
exist in the zone because clocks were put forward over it.
-/

namespace TypedFilters

/-- The instant of a civil time with an offset, if its date in UTC is in range. -/
def Civil.instantInRange? (c : Civil) (offset : Int) : Option Instant :=
  let i := c.instant offset
  if Civil.yearInRange i.civil.year then some i else none

/-- The instant of a civil time on the clocks of a zone, the earliest one if there are several. All of
them have to be in range. -/
def Zone.instant? (zone : Zone) (c : Civil) : Option Instant :=
  ((zone.localOffsets c.seconds).andThen c.instantInRange?).earliest?

/-- The instant that a text spells, read on the clocks of a zone where it has no offset. -/
def instant? (zone : Zone) (cs : List Char) : Option Instant :=
  match Rfc3339.read? cs with
  | some (c, offset) => some (c.instant offset)
  | none => (LocalTime.read? cs).bind zone.instant?

/-- The UTC text of the instant that the trimmed text spells. -/
def toUtcText? (zone : Zone) (s : String) : Option String :=
  (instant? zone (Text.trimChars s.toList)).map Instant.utcText

end TypedFilters
