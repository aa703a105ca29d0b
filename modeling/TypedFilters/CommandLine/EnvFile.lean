import TypedFilters.CommandLine.Usage
import TypedFilters.Files.Access
import TypedFilters.Text.Alphanumeric
import TypedFilters.Text.Split

/-!
# Environment files

A file `.env` assigns values to variables that the environment does not set. The file is the first one
in the working directory or a directory around it. A value may be quoted, may go on over several lines
inside quotes, and may refer to other variables after a dollar sign. A line that cannot be read ends
the reading; what was assigned before it stays.
-/

namespace TypedFilters.EnvFile

open Text

/-- The name of environment files. -/
def fileName : String := ".env"

/-! ## Logical lines -/

/-- Where a line stands with respect to quotes, escapes and comments. -/
inductive Mode where
  | plain
  | escape
  | strong
  | strongEscape
  | weak
  | weakEscape
  | blank
  | comment
  deriving DecidableEq, Repr

/-- What a character of a plain part does. -/
def Mode.ofPlain (c : Char) : Mode :=
  if c = '\\' then escape else if c = '"' then weak else if c = '\x27' then strong else plain

/-- The mode after one more character. A comment begins after a blank and does not end. -/
def Mode.next (c : Char) : Mode → Mode
  | blank => if c = '#' then comment else Mode.ofPlain c
  | escape => plain
  | plain => if isBlankChar c && c != '\n' && c != '\r' then blank else Mode.ofPlain c
  | weak => if c = '\\' then weakEscape else if c = '"' then plain else weak
  | weakEscape => weak
  | strong => if c = '\\' then strongEscape else if c = '\x27' then plain else strong
  | strongEscape => strong
  | comment => comment

/-- The characters of a line in front of a comment, and the mode at the end. -/
def untilComment : Mode → List Char → List Char × Mode
  | mode, [] => ([], mode)
  | mode, c :: rest =>
    match mode.next c with
    | .comment => ([], .comment)
    | next =>
      let (kept, last) := untilComment next rest
      (c :: kept, last)

/-- A line without its end. -/
def withoutEnd (cs : List Char) : List Char :=
  match cs.reverse with
  | '\n' :: '\r' :: front => front.reverse
  | '\n' :: front => front.reverse
  | _ => cs

/-- The lines of a text, each with its end. -/
def physicalLines (cs : List Char) : List (List Char) :=
  match splitList '\n' cs with
  | [] => []
  | pieces =>
    let ended := pieces.dropLast.map (· ++ ['\n'])
    match pieces.getLast? with
    | some [] | none => ended
    | some last => ended ++ [last]

/-- A comment line, to which what was read before it belongs. -/
def isComment (cs : List Char) : Bool :=
  match cs.dropWhile isBlankChar with
  | '#' :: _ => true
  | _ => false

/-- Lines joined while a quotation is open or a line ends in the middle of an escape or after a blank.
A part that is left open at the end is `none`. -/
def logicalLines : List Char → Mode → List (List Char) → List (Option (List Char))
  | _, mode, [] => if mode = .plain then [] else [none]
  | before, mode, line :: rest =>
    if isComment (before ++ line) then some [] :: logicalLines [] .plain rest
    else
      match untilComment mode line with
      | (_, .plain) => some (withoutEnd (before ++ line)) :: logicalLines [] .plain rest
      | (kept, .comment) => some (before ++ kept) :: logicalLines [] .plain rest
      | (_, mode) => logicalLines (before ++ line) mode rest

/-! ## Values -/

/-- A reference to a variable that is being read. -/
inductive Reference where
  | nothing
  | bare (name : List Char)
  | braced (name : List Char)
  deriving DecidableEq, Repr

/-- How far a value has been read; `output` and names hold their characters last one first. -/
structure ValueState where
  output : List Char
  strong : Bool
  weak : Bool
  escaped : Bool
  ended : Bool
  reference : Reference
  deriving DecidableEq, Repr

/-- The value of a variable whose name is given last character first; empty if it is not set. -/
def valueOf (env : Environment) (name : List Char) : String :=
  (env (String.ofList name.reverse)).getD ""

/-- A text at the end of the output. -/
def ValueState.push (s : ValueState) (text : String) : ValueState :=
  { s with output := text.toList.reverse ++ s.output }

/-- One character of a value outside of quotations, references and escapes. -/
def ValueState.plainChar (s : ValueState) (c : Char) : ValueState :=
  if s.weak then
    if c = '"' then { s with weak := false }
    else if c = '\\' then { s with escaped := true }
    else { s with output := c :: s.output }
  else if c = '\x27' then { s with strong := true }
  else if c = '"' then { s with weak := true }
  else if c = '\\' then { s with escaped := true }
  else if c = ' ' ∨ c = '\t' then { s with ended := true }
  else { s with output := c :: s.output }

/-- One character of a reference. -/
def ValueState.referenceChar (lookUp : List Char → String) (s : ValueState) (c : Char) : ValueState :=
  match s.reference with
  | .nothing => s.plainChar c
  | .bare name =>
    if isAlphanumeric c then { s with reference := .bare (c :: name) }
    else if c = '{' ∧ name = [] then { s with reference := .braced [] }
    else
      let s := s.push (lookUp name)
      if c = '$' then { s with reference := .bare [] }
      else { s with reference := .nothing, output := c :: s.output }
  | .braced name =>
    if c = '}' then { s.push (lookUp name) with reference := .nothing }
    else { s with reference := .braced (c :: name) }

/-- One character after a backslash. -/
def ValueState.escapedChar (s : ValueState) (c : Char) : Option ValueState :=
  if c = '\\' ∨ c = '\x27' ∨ c = '"' ∨ c = '$' ∨ c = ' ' then
    some { s with output := c :: s.output, escaped := false }
  else if c = 'n' then some { s with output := '\n' :: s.output, escaped := false }
  else none

/-- The characters of a value. After a blank outside of quotations only blanks and a comment may
follow. -/
def readValue (lookUp : List Char → String) : ValueState → List Char → Option ValueState
  | s, [] => some s
  | s, c :: rest =>
    if s.ended then
      if c = ' ' ∨ c = '\t' then readValue lookUp s rest
      else if c = '#' then some s
      else none
    else if s.escaped then (s.escapedChar c).bind fun s => readValue lookUp s rest
    else if s.strong then
      if c = '\x27' then readValue lookUp { s with strong := false } rest
      else readValue lookUp { s with output := c :: s.output } rest
    else if s.reference ≠ .nothing then readValue lookUp (s.referenceChar lookUp c) rest
    else if c = '$' then readValue lookUp { s with reference := .bare [] } rest
    else readValue lookUp (s.plainChar c) rest

/-- The value that the text after an equals sign spells. Quotations and braces must be closed. -/
def value? (lookUp : List Char → String) (cs : List Char) : Option String :=
  match readValue lookUp ⟨[], false, false, false, false, .nothing⟩ cs with
  | none => none
  | some s =>
    if s.strong || s.weak then none
    else
      match s.reference with
      | .nothing => some (String.ofList s.output.reverse)
      | .bare name => some (String.ofList (s.push (lookUp name)).output.reverse)
      | .braced _ => none

/-! ## Assignments -/

/-- A character that a variable's name may begin with. -/
def startsName (c : Char) : Bool :=
  c.isAlpha || c == '_'

/-- A character of the name of a variable that is assigned. -/
def isKeyChar (c : Char) : Bool :=
  c.isAlphanum || c == '_' || c == '.'

/-- The name in front of an equals sign, and what follows it without blanks. -/
def key? (cs : List Char) : Option (List Char × List Char) :=
  match cs with
  | c :: _ =>
    if startsName c then
      some (cs.takeWhile isKeyChar, (cs.dropWhile isKeyChar).dropWhile isBlankChar)
    else none
  | [] => none

/-- The text after an equals sign. -/
def afterEquals? : List Char → Option (List Char)
  | '=' :: rest => some rest
  | _ => none

/-- The name that a line assigns to, and the text of the value. The word `export` may stand in front
of the name, and may be a name itself. -/
def assignment? (cs : List Char) : Option (List Char × List Char) := do
  let (name, rest) ← key? cs
  match afterEquals? rest with
  | some rest => some (name, rest)
  | none =>
    if name = "export".toList then
      let (name, rest) ← key? rest
      let rest ← afterEquals? rest
      some (name, rest)
    else none

/-- The end of a line without blanks. -/
def trimEnd (cs : List Char) : List Char :=
  (cs.reverse.dropWhile isBlankChar).reverse

/-- What a logical line says: nothing, an assignment, or `none` if it cannot be read. -/
def readLine (lookUp : List Char → String) (line : List Char) : Option (Option (String × String)) :=
  match (trimEnd line).dropWhile isBlankChar with
  | [] => some none
  | '#' :: _ => some none
  | cs => do
    let (name, rest) ← assignment? cs
    let name := String.ofList name
    match rest.dropWhile isBlankChar with
    | [] => some (some (name, ""))
    | '#' :: _ => some (some (name, ""))
    | rest =>
      let v ← value? lookUp rest
      some (some (name, v))

/-- The environment with one more variable, unless it is set. -/
def assign (env : Environment) (name value : String) : Environment :=
  fun n => if n = name then (env n).or (some value) else env n

/-- The environment with the assignments of lines, up to a line that cannot be read. A line may refer
to what the lines before it assign. -/
def readLines : Environment → List (Option (List Char)) → Environment
  | env, [] => env
  | env, none :: _ => env
  | env, some line :: rest =>
    match readLine (valueOf env) line with
    | none => env
    | some none => readLines env rest
    | some (some (name, v)) => readLines (assign env name v) rest

/-- The text of the whole lines of UTF-8 at the front of octets. -/
def readableLines (octets : List UInt8) : List Char :=
  let octets :=
    match octets with
    | 0xEF :: 0xBB :: 0xBF :: rest => rest
    | octets => octets
  let lines := (splitList 10 octets).map ofOctets?
  let readable := (lines.takeWhile Option.isSome).map fun l => (l.getD "").toList
  if readable.length = lines.length then ['\n'].intercalate readable
  else (readable.map (· ++ ['\n'])).flatten

/-- The environment with the assignments of a file. A variable that is set keeps its value, and of
several assignments the first counts. -/
def extend (env : Environment) (octets : List UInt8) : Environment :=
  readLines env (logicalLines [] .plain (physicalLines (readableLines octets)))

/-! ## Finding the file -/

/-- The directory with the given components, the innermost first, and the directories around it. -/
def directoriesOf : List String → List String
  | [] => ["/"]
  | c :: rest => ("/" ++ "/".intercalate (c :: rest).reverse) :: directoriesOf rest

/-- A directory and the directories around it, from the inside out. -/
def directories (path : String) : List String :=
  directoriesOf (Path.components path).reverse

/-- The first environment file in some directories. -/
def find? {m : Type → Type} [Monad m] (files : Files m) : List String → m (Option (List UInt8))
  | [] => pure none
  | directory :: rest => do
    match ← files.entry (Path.join directory fileName) with
    | .file octets => pure (some octets)
    | .nowhere .missing | .directory => find? files rest
    | .nowhere _ | .unreadable _ => pure none

/-- The environment with the assignments of the environment file, if there is one. -/
def load {m : Type → Type} [Monad m] (files : Files m) (env : Environment) : m Environment := do
  match ← find? files (directories files.workingDirectory) with
  | some octets => pure (extend env octets)
  | none => pure env

end TypedFilters.EnvFile
