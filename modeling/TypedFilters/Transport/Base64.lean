import TypedFilters.Text.Octets

/-!
# Base64

Two alphabets, standard and URL-safe, each with or without padding, give four ways to write octets.
`Base64.decode?` reads one of them strictly: padding is canonical where it is required and absent
otherwise, and the unused bits of the last symbol are zero. `Base64.read` tries the four ways in
turn; its refusal tells what is wrong with the text as URL-safe Base64 without padding.
-/

namespace TypedFilters.Base64

/-- The symbols for 62 and 63 differ between the two alphabets. -/
inductive Alphabet where
  | standard
  | urlSafe
  deriving DecidableEq, Repr

/-- The padding symbol. -/
def pad : UInt8 := 61

/-- The symbol for 62. -/
def Alphabet.symbol62 : Alphabet → UInt8
  | standard => 43
  | urlSafe => 45

/-- The symbol for 63. -/
def Alphabet.symbol63 : Alphabet → UInt8
  | standard => 47
  | urlSafe => 95

/-- The six bits that a symbol stands for. -/
def Alphabet.value? (a : Alphabet) (b : UInt8) : Option Nat :=
  if 65 ≤ b ∧ b ≤ 90 then some (b.toNat - 65)
  else if 97 ≤ b ∧ b ≤ 122 then some (b.toNat - 71)
  else if 48 ≤ b ∧ b ≤ 57 then some (b.toNat + 4)
  else if b = a.symbol62 then some 62
  else if b = a.symbol63 then some 63
  else none

/-- The symbol for six bits. -/
def Alphabet.symbol (a : Alphabet) (v : Nat) : UInt8 :=
  if v < 26 then UInt8.ofNat (v + 65)
  else if v < 52 then UInt8.ofNat (v + 71)
  else if v < 62 then UInt8.ofNat (v - 4)
  else if v = 62 then a.symbol62
  else a.symbol63

/-! ## Reading and writing in one of the four ways -/

/-- One octet from two symbols; the last four bits must be zero. -/
def oneOctet? (a : Alphabet) (s t : UInt8) : Option (List UInt8) := do
  let x ← a.value? s
  let y ← a.value? t
  if y % 16 = 0 then some [UInt8.ofNat (x * 4 + y / 16)] else none

/-- Two octets from three symbols; the last two bits must be zero. -/
def twoOctets? (a : Alphabet) (s t u : UInt8) : Option (List UInt8) := do
  let x ← a.value? s
  let y ← a.value? t
  let z ← a.value? u
  if z % 4 = 0 then
    some [UInt8.ofNat (x * 4 + y / 16), UInt8.ofNat (y % 16 * 16 + z / 4)]
  else none

/-- Three octets from four symbols. -/
def threeOctets? (a : Alphabet) (s t u v : UInt8) : Option (List UInt8) := do
  let x ← a.value? s
  let y ← a.value? t
  let z ← a.value? u
  let w ← a.value? v
  some [UInt8.ofNat (x * 4 + y / 16), UInt8.ofNat (y % 16 * 16 + z / 4),
    UInt8.ofNat (z % 4 * 64 + w)]

/-- The octets that a text of symbols writes in one of the four ways. -/
def decode? (a : Alphabet) (padded : Bool) : List UInt8 → Option (List UInt8)
  | [] => some []
  | [_] => none
  | [s, t] => if padded then none else oneOctet? a s t
  | [s, t, u] => if padded then none else twoOctets? a s t u
  | s :: t :: u :: v :: rest =>
    if padded ∧ rest = [] ∧ v = pad then
      if u = pad then oneOctet? a s t else twoOctets? a s t u
    else do
      let front ← threeOctets? a s t u v
      let back ← decode? a padded rest
      some (front ++ back)

/-- The symbols that write octets in one of the four ways. -/
def encode (a : Alphabet) (padded : Bool) : List UInt8 → List UInt8
  | [] => []
  | [p] =>
    a.symbol (p.toNat / 4) :: a.symbol (p.toNat % 4 * 16) :: (if padded then [pad, pad] else [])
  | [p, q] =>
    a.symbol (p.toNat / 4) :: a.symbol (p.toNat % 4 * 16 + q.toNat / 16) ::
      a.symbol (q.toNat % 16 * 4) :: (if padded then [pad] else [])
  | p :: q :: r :: rest =>
    a.symbol (p.toNat / 4) :: a.symbol (p.toNat % 4 * 16 + q.toNat / 16) ::
      a.symbol (q.toNat % 16 * 4 + r.toNat / 64) :: a.symbol (r.toNat % 64) :: encode a padded rest

/-! ## What is wrong with a text -/

/-- Why a text is not Base64. Offsets count octets from the start of the text. -/
inductive Fault where
  | symbol (octet : UInt8) (offset : Nat)
  | length (symbols : Nat)
  | padding
  | lastSymbol (octet : UInt8) (offset : Nat)
  deriving DecidableEq, Repr

/-- What is said of a fault. -/
def Fault.message : Fault → String
  | symbol b offset => s!"Invalid symbol {b.toNat}, offset {offset}."
  | length n => s!"Invalid input length: {n}"
  | padding => "Invalid padding"
  | lastSymbol b offset => s!"Invalid last symbol {b.toNat}, offset {offset}."

/-- A URL-safe symbol. -/
def isSymbol (b : UInt8) : Bool :=
  (Alphabet.urlSafe.value? b).isSome

/-- The first octet that is no symbol, in a list whose first octet has the given offset. -/
def firstStray? (offset : Nat) : List UInt8 → Option Fault
  | [] => none
  | b :: rest => if isSymbol b then firstStray? (offset + 1) rest else some (.symbol b offset)

/-- The first fault in the octets of the last group. `start` is the offset of the group, `place` the
place in the group, and `padAt?` the offset of the first padding symbol that was passed. -/
def groupFault? (start : Nat) : Nat → Option Nat → List UInt8 → Option Fault
  | _, _, [] => none
  | place, padAt?, b :: rest =>
    if b = pad then
      if place < 2 then some (.symbol b (start + place))
      else groupFault? start (place + 1) (padAt?.or (some (start + place))) rest
    else
      match padAt? with
      | some offset => some (.symbol pad offset)
      | none =>
        if isSymbol b then groupFault? start (place + 1) none rest
        else some (.symbol b (start + place))

/-- The offset of the last group, which has one to four octets. -/
def lastGroup (bs : List UInt8) : Nat :=
  (bs.length - 1) / 4 * 4

/-- An octet left over at the end that is neither a symbol nor padding is reported before all. -/
def leftOver? (bs : List UInt8) : Option Fault :=
  match bs.getLast? with
  | some b =>
    if bs.length % 4 = 1 ∧ b ≠ pad ∧ !isSymbol b then some (.symbol b (bs.length - 1)) else none
  | none => none

/-- The fault of a text that is not URL-safe Base64 without padding. When no other fault is found,
unused bits of the last symbol are not zero. -/
def fault (bs : List UInt8) : Fault :=
  let start := lastGroup bs
  let group := bs.drop start
  let symbols := group.takeWhile (· ≠ pad)
  ((leftOver? bs).or (firstStray? 0 (bs.take start))).or (groupFault? start 0 none group) |>.getD <|
    if symbols.length < 2 then .length (start + symbols.length)
    else if symbols.length < group.length then .padding
    else .lastSymbol (symbols.getLast?.getD pad) (start + symbols.length - 1)

/-- The octets that a text writes in the first of the four ways that fits it. -/
def read (bs : List UInt8) : Except Fault (List UInt8) :=
  let found := ((decode? .standard true bs).or (decode? .standard false bs)).or
    ((decode? .urlSafe true bs).or (decode? .urlSafe false bs))
  match found with
  | some octets => .ok octets
  | none => .error (fault bs)

end TypedFilters.Base64
