import TypedFilters.Text.Blank
import TypedFilters.Time.Rfc3339

/-!
# Local date-times

A local date-time has no offset. It is read by one of four formats; a format is a list of parts,
and a part takes as much of the text as it can. Numbers may have blanks in front and fewer digits
than usual, so the formats are wider than the forms that users are told about.
-/

namespace TypedFilters.LocalTime

open Text Decimal

/-- One part of a format. -/
inductive Part where
  /-- Up to four digits, or any number of digits after a sign. -/
  | year
  /-- One or two digits. -/
  | month
  /-- One or two digits. -/
  | day
  /-- One or two digits. -/
  | hour
  /-- One or two digits. -/
  | minute
  /-- One or two digits. -/
  | second
  /-- Nothing, or a point with one digit or more. -/
  | fraction
  /-- That character. -/
  | mark (c : Char)
  /-- Any number of blank characters. -/
  | blanks
  deriving DecidableEq, Repr

/-- The parts of a date. -/
def dateParts : List Part := [.year, .mark '-', .month, .mark '-', .day]

/-- The parts of hours and minutes. -/
def clockParts : List Part := [.hour, .mark ':', .minute]

/-- Date and time to the second around a `T`. -/
def secondsAfterT : List Part :=
  dateParts ++ .mark 'T' :: clockParts ++ [.mark ':', .second, .fraction]

/-- Date and time to the second around blanks. -/
def secondsAfterBlanks : List Part :=
  dateParts ++ .blanks :: clockParts ++ [.mark ':', .second, .fraction]

/-- Date and time to the minute around a `T`. -/
def minutesAfterT : List Part :=
  dateParts ++ .mark 'T' :: clockParts

/-- The formats in the order in which they are tried. -/
def formats : List (List Part) :=
  [secondsAfterT, secondsAfterBlanks, minutesAfterT, dateParts]

/-- At least one and at most `width` digits at the front, as a number. -/
def upTo? (width : Nat) (cs : List Char) : Option (Nat × List Char) :=
  let digits := (cs.take width).takeWhile isDigit
  if digits.isEmpty then none else some (digitsValue digits, cs.drop digits.length)

/-- A year: with a sign any number of digits, else at most four. -/
def year? : List Char → Option (Int × List Char)
  | '-' :: rest =>
    let (digits, rest) := splitDigits rest
    if digits.isEmpty then none else some (-(digitsValue digits : Int), rest)
  | '+' :: rest =>
    let (digits, rest) := splitDigits rest
    if digits.isEmpty then none else some ((digitsValue digits : Int), rest)
  | cs => (upTo? 4 cs).map fun (n, rest) => ((n : Int), rest)

/-- One part read from the front of the text into the fields read so far. -/
def Part.read? (c : Civil) (cs : List Char) : Part → Option (Civil × List Char)
  | .year => (year? (cs.dropWhile isBlankChar)).map fun (n, rest) => ({ c with year := n }, rest)
  | .month => (upTo? 2 (cs.dropWhile isBlankChar)).map fun (n, rest) => ({ c with month := n }, rest)
  | .day => (upTo? 2 (cs.dropWhile isBlankChar)).map fun (n, rest) => ({ c with day := n }, rest)
  | .hour => (upTo? 2 (cs.dropWhile isBlankChar)).map fun (n, rest) => ({ c with hour := n }, rest)
  | .minute =>
    (upTo? 2 (cs.dropWhile isBlankChar)).map fun (n, rest) => ({ c with minute := n }, rest)
  | .second =>
    (upTo? 2 (cs.dropWhile isBlankChar)).map fun (n, rest) => ({ c with second := n }, rest)
  | .fraction => (Rfc3339.fraction? cs).map fun (n, rest) => ({ c with nanos := n }, rest)
  | .mark m => (Rfc3339.skip? m cs).map fun rest => (c, rest)
  | .blanks => some (c, cs.dropWhile isBlankChar)

/-- The parts of a format read one after the other, up to the end of the text. -/
def readParts? : List Part → Civil → List Char → Option Civil
  | [], c, cs => if cs.isEmpty then some c else none
  | p :: ps, c, cs => do
    let (c, rest) ← p.read? c cs
    readParts? ps c rest

/-- The valid civil time that the whole text spells in one format. -/
def readFormat? (parts : List Part) (cs : List Char) : Option Civil :=
  (readParts? parts Civil.start cs).filter Civil.isValid

/-- The civil time that the text spells in the first format that reads it. -/
def read? (cs : List Char) : Option Civil :=
  formats.findSome? fun parts => readFormat? parts cs

end TypedFilters.LocalTime
