import TypedFilters.Files.Path
import TypedFilters.Text.Octets

/-!
# Access to files

What is at a path is one of a few things (`Entry`), and a file is read as a text of UTF-8. Programs ask
for entries through `Files`, which also knows the home and the working directory; the monad decides
where the entries come from, so the same program runs on a file system and on a tree in memory.
-/

namespace TypedFilters

/-- Why a path leads nowhere. -/
inductive PathFault where
  | missing
  /-- The path goes on behind something that is no directory. -/
  | behindFile
  /-- The path, or a component of it, is longer than any path or name may be. -/
  | tooLong
  /-- The path holds a null character, which no name may hold. -/
  | nullInName
  deriving DecidableEq, Repr

/-- What is at a path. -/
inductive Entry where
  | nowhere (fault : PathFault)
  | directory
  | file (octets : List UInt8)
  /-- Reading fails for another reason. -/
  | unreadable (reason : String)
  deriving DecidableEq, Repr

/-- Why no text can be read. -/
inductive ReadFault where
  | path (fault : PathFault)
  | directory
  | notUtf8
  | other (reason : String)
  deriving DecidableEq, Repr

/-- What is said of a path that leads nowhere. -/
def PathFault.message : PathFault → String
  | missing => "No such file or directory (os error 2)"
  | behindFile => "Not a directory (os error 20)"
  | tooLong => "File name too long (os error 36)"
  | nullInName => "file name contained an unexpected NUL byte"

/-- What is said when no text can be read. -/
def ReadFault.message : ReadFault → String
  | path fault => fault.message
  | directory => "Is a directory (os error 21)"
  | notUtf8 => "stream did not contain valid UTF-8"
  | other reason => reason

namespace Entry

/-- There is something at the path. -/
def isPresent : Entry → Bool
  | nowhere _ => false
  | directory | file _ | unreadable _ => true

/-- The text of a file. -/
def text : Entry → Except ReadFault String
  | file octets =>
    match Text.ofOctets? octets with
    | some s => .ok s
    | none => .error .notUtf8
  | nowhere fault => .error (.path fault)
  | directory => .error .directory
  | unreadable reason => .error (.other reason)

end Entry

/-- The files that a program can see. Paths that are asked for are absolute. -/
structure Files (m : Type → Type) where
  entry : String → m Entry
  home? : Option String
  workingDirectory : String

namespace Files

variable {m : Type → Type}

/-- A path that a user gave, made absolute. -/
def expand (files : Files m) (path : String) : String :=
  Path.expand files.home? files.workingDirectory path

/-- A path taken from the working directory. -/
def absolute (files : Files m) (path : String) : String :=
  Path.join files.workingDirectory path

end Files

end TypedFilters
