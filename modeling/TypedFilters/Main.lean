import TypedFilters.Session

/-!
# The program

The outer layer: files, standard streams and the environment of the process.
-/

namespace TypedFilters

/-- What is at a path of the file system. -/
def systemEntry (path : String) : IO Entry := do
  try
    let octets ← IO.FS.readBinFile path
    pure (.file octets.data.toList)
  catch e =>
    match e with
    | .noFileOrDirectory _ _ _ => pure (.nowhere .missing)
    | .inappropriateType _ code _ =>
      pure (if code = 21 then .directory else .nowhere .behindFile)
    | _ => pure (.unreadable (toString e))

/-- The files of the system. An empty home directory counts as none. -/
def systemFiles : IO (Files IO) := do
  let home? := (← IO.getEnv "HOME").filter fun home => !home.isEmpty
  let workingDirectory ← IO.currentDir
  pure ⟨systemEntry, home?, workingDirectory.toString⟩

/-- A variable of the process, from its name and value around an equals sign. -/
def processVariable? (octets : List UInt8) : Option (String × String) := do
  let text ← Text.ofOctets? octets
  let name := text.toList.takeWhile (· ≠ '=')
  some (String.ofList name, String.ofList (text.toList.drop (name.length + 1)))

/-- The environment of the process. -/
def processEnvironment : IO Environment := do
  match ← systemEntry "/proc/self/environ" with
  | .file octets =>
    let settings := (Text.splitList 0 octets).filterMap processVariable?
    pure fun name => (settings.find? fun v => v.1 == name).map Prod.snd
  | _ => pure fun _ => none

/-- All octets of the standard input. -/
def standardInput : IO (List UInt8) := do
  let stdin ← IO.getStdin
  let octets ← stdin.readBinToEnd
  pure octets.data.toList

/-- A record as a line of the log. -/
def logLine (logJson : Bool) (r : LogRecord) : String :=
  if logJson then Json.compact r.toJson
  else
    let details := " ".intercalate (r.details.map fun d => d.1 ++ "=" ++ d.2)
    s!"{r.level.name} {r.message} {details}"

/-- What is left behind by a run, written to the standard streams. -/
def report (outcome : Outcome) : IO Unit := do
  for r in outcome.logs do
    IO.eprintln (logLine outcome.logJson r)
  IO.print outcome.stdout
  match outcome.error? with
  | some message => IO.eprintln s!"\nError: {message}\n"
  | none => pure ()

end TypedFilters

open TypedFilters in
/-- One run of the program. -/
def main (words : List String) : IO UInt32 := do
  let files ← systemFiles
  let env ← processEnvironment
  let outcome ← Session.run files standardInput env words Zone.named?
  report outcome
  pure (UInt32.ofNat outcome.exitStatus)
