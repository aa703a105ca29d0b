import TypedFilters.Text.Ascii
import TypedFilters.Text.Blank

/-!
# Entities

The resource types that own a table of filterable fields. Each has a plural wire name and is also
accepted under its singular.
-/

namespace TypedFilters

/-- A resource type whose records can be filtered. -/
inductive Entity where
  | prompts
  | traces
  | spans
  | threads
  | experiments
  | datasets
  | projects
  deriving DecidableEq, Repr, Inhabited

namespace Entity

/-- Every entity once, in the order in which they are listed to users. -/
def all : List Entity :=
  [prompts, traces, spans, threads, experiments, datasets, projects]

/-- The canonical wire name, a plural. -/
def name : Entity → String
  | prompts => "prompts"
  | traces => "traces"
  | spans => "spans"
  | threads => "threads"
  | experiments => "experiments"
  | datasets => "datasets"
  | projects => "projects"

/-- The singular under which an entity is accepted too. -/
def singular : Entity → String
  | prompts => "prompt"
  | traces => "trace"
  | spans => "span"
  | threads => "thread"
  | experiments => "experiment"
  | datasets => "dataset"
  | projects => "project"

/-- A text names an entity when, trimmed and in lower case, it is its plural or its singular. -/
def named? (text : String) : Option Entity :=
  let given := Text.lower (Text.trim text)
  all.find? fun e => given == e.name || given == e.singular

/-- What is said of a text that names no entity. -/
def unknownMessage (text : String) : String :=
  let valid := ", ".intercalate (all.map name)
  s!"Invalid entity '{text}'. Valid options: {valid}"

end Entity

end TypedFilters
