import TypedFilters.Text.Blank
import TypedFilters.Text.Split

/-!
# Paths

A path is a text whose components are separated by slashes; it is absolute when it begins with one.
`Path.expand` makes a path that a user gave absolute: `~` stands for the home directory, and a relative
path is taken from the working directory.
-/

namespace TypedFilters.Path

/-- A path that begins with a slash. -/
def isAbsolute (path : String) : Bool :=
  match path.toList with
  | '/' :: _ => true
  | _ => false

/-- A path taken from a base: an absolute path replaces the base. -/
def join (base path : String) : String :=
  if isAbsolute path then path
  else if base.isEmpty || base.toList.getLast? == some '/' then base ++ path
  else base ++ "/" ++ path

/-- The components of a path; empty ones and those that stay in place do not count. -/
def components (path : String) : List String :=
  (Text.split '/' path).filter fun c => c != "" && c != "."

/-- The path with the home directory in place of `~` and `~/`, if a home directory is known. -/
def expandHome (home? : Option String) (path : String) : String :=
  match path.toList, home? with
  | ['~'], some home => home
  | '~' :: '/' :: rest, some home => join home (String.ofList rest)
  | _, _ => path

/-- The trimmed path as an absolute one. -/
def expand (home? : Option String) (workingDirectory path : String) : String :=
  let expanded := expandHome home? (Text.trim path)
  if isAbsolute expanded then expanded else join workingDirectory expanded

end TypedFilters.Path
