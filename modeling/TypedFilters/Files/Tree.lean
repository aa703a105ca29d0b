import TypedFilters.Files.Access

/-!
# Trees of files in memory

A tree assigns a directory or a file to some lists of components; the root is a directory. A path is
followed component by component, so that it can go up again, but only from a directory.
-/

namespace TypedFilters

/-- A directory or a file. -/
inductive Node where
  | directory
  | file (octets : List UInt8)
  deriving DecidableEq, Repr

/-- A tree of files; the places are lists of components, the innermost first. -/
structure FileTree where
  nodes : List (List String × Node)
  deriving DecidableEq, Repr

namespace FileTree

/-- The tree in which only the root exists. -/
def empty : FileTree := ⟨[]⟩

/-- What is at a place. -/
def node? (tree : FileTree) : List String → Option Node
  | [] => some .directory
  | place => (tree.nodes.find? fun n => n.1 == place).map Prod.snd

/-- The places around a place, and the place itself, without the root. -/
def around : List String → List (List String)
  | [] => []
  | c :: rest => around rest ++ [c :: rest]

/-- The tree with a node at a path, and with the directories around it. -/
def put (tree : FileTree) (path : String) (node : Node) : FileTree :=
  let place := (Path.components path).reverse
  let parents := (around place.tail).map fun p => (p, Node.directory)
  ⟨(place, node) :: (parents ++ tree.nodes)⟩

/-- The entry for a node. -/
def entryOf : Option Node → Entry
  | none => .nowhere .missing
  | some .directory => .directory
  | some (.file octets) => .file octets

/-- The greatest number of octets of a name. -/
def maxName : Nat := 255

/-- The greatest number of octets of a path. -/
def maxPath : Nat := 4095

/-- What is found by following components from a place. -/
def follow (tree : FileTree) : List String → List String → Entry
  | place, [] => entryOf (tree.node? place)
  | place, c :: rest =>
    match tree.node? place with
    | none => .nowhere .missing
    | some (.file _) => .nowhere .behindFile
    | some .directory =>
      if c = "" ∨ c = "." then tree.follow place rest
      else if c = ".." then tree.follow place.tail rest
      else if maxName < c.utf8ByteSize then .nowhere .tooLong
      else tree.follow (c :: place) rest

/-- What is at an absolute path. -/
def entry (tree : FileTree) (path : String) : Entry :=
  if path.toList.contains '\x00' then .nowhere .nullInName
  else if maxPath < path.utf8ByteSize then .nowhere .tooLong
  else tree.follow [] (Text.split '/' path)

/-- The tree as the files that a program can see. -/
def files (tree : FileTree) (home? : Option String) (workingDirectory : String) : Files Id :=
  ⟨tree.entry, home?, workingDirectory⟩

end FileTree

end TypedFilters
