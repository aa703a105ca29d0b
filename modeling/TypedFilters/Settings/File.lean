import TypedFilters.Wire

/-!
# Settings files

A settings file is a JSON object. Its member `filters` holds the settings of this library, as an object
or as an array of all four in order; each of them may be absent or `null`. The names of other members
are collected, because they are probably misspelt.
-/

namespace TypedFilters

open Json (Reader)

/-- The settings that one source gives; each may be absent. -/
structure Layer where
  encoding? : Option Encoding
  timezone? : Option String
  maxFilters? : Option Nat
  maxJsonBytes? : Option Nat
  deriving DecidableEq, Repr, Inhabited

/-- A source that gives no settings. -/
def Layer.empty : Layer := ⟨none, none, none, none⟩

/-- Two layers, of which the first takes precedence for each setting by itself. -/
def Layer.stackedOn (upper lower : Layer) : Layer :=
  ⟨upper.encoding?.or lower.encoding?, upper.timezone?.or lower.timezone?,
    upper.maxFilters?.or lower.maxFilters?, upper.maxJsonBytes?.or lower.maxJsonBytes?⟩

/-- What a settings file says. -/
structure SettingsFile where
  layer : Layer
  unknown : List String
  deriving DecidableEq, Repr

namespace SettingsFile

/-! ## The section of filters -/

/-- The members of the section that have been read; a member that is `null` has been given too. -/
structure Draft where
  encoding? : Option (Option Encoding)
  timezone? : Option (Option String)
  maxFilters? : Option (Option Nat)
  maxJsonBytes? : Option (Option Nat)

/-- The layer of a draft. -/
def Draft.layer (d : Draft) : Layer :=
  ⟨d.encoding?.join, d.timezone?.join, d.maxFilters?.join, d.maxJsonBytes?.join⟩

/-- A member that may be given once. -/
def readOnce {α σ : Type} (name : String) (given? : Option (Option α)) (item : Reader α)
    (put : Option α → σ) : Reader σ := fun cs =>
  if given?.isSome then Json.failShapeHere (.duplicateField name) (Json.afterObject cs)
  else (Json.afterColon (Json.optional item) cs).map fun (x, rest) => (put x, rest)

/-- A string. -/
def readText : Reader String :=
  Json.typedString "a string"

/-- One member of the section after its name. -/
def readMember (name : String) (d : Draft) : Reader Draft := fun cs =>
  if name = "encoding" then
    readOnce name d.encoding? Encoding.read (fun x => { d with encoding? := some x }) cs
  else if name = "timezone" then
    readOnce name d.timezone? readText (fun x => { d with timezone? := some x }) cs
  else if name = "max_filters" then
    readOnce name d.maxFilters? Json.typedSize (fun x => { d with maxFilters? := some x }) cs
  else if name = "max_json_bytes" then
    readOnce name d.maxJsonBytes? Json.typedSize (fun x => { d with maxJsonBytes? := some x }) cs
  else
    match Json.colon cs with
    | .error e => .error e
    | .ok rest => (Json.skipValue rest).map fun rest => (d, rest)

/-- What an array of settings is expected to be. -/
def arrayForm : String := "struct FiltersFileConfig with 4 elements"

/-- The items of the section after its opening bracket. -/
def readItems : Reader Layer := fun cs => do
  let (encoding?, cs) ← Json.requiredItem arrayForm 0 (Json.optional Encoding.read) cs
  let (timezone?, cs) ← Json.requiredItem arrayForm 1 (Json.optional readText) cs
  let (maxFilters?, cs) ← Json.requiredItem arrayForm 2 (Json.optional Json.typedSize) cs
  let (maxJsonBytes?, cs) ← Json.requiredItem arrayForm 3 (Json.optional Json.typedSize) cs
  let cs ← Json.endOfArray cs
  .ok (⟨encoding?, timezone?, maxFilters?, maxJsonBytes?⟩, cs)

/-- The section of filters. -/
def readSection : Reader Layer := fun cs =>
  match Json.skipSpace cs with
  | [] => Json.failHere .endInValue []
  | '[' :: rest => readItems rest
  | '{' :: rest =>
    (Json.members readMember (rest.length + 1) ⟨none, none, none, none⟩ true rest).map
      fun (d, rest) => (d.layer, rest)
  | rest => Json.unexpected "struct FiltersFileConfig" rest

/-! ## The whole file -/

/-- The section, once it has been given, and the names of the other members, the last one first. -/
structure Whole where
  given? : Option (Option Layer)
  unknown : List String

/-- One member of the file after its name. -/
def readTopMember (name : String) (w : Whole) : Reader Whole := fun cs =>
  if name = "filters" then
    readOnce name w.given? readSection (fun x => { w with given? := some x }) cs
  else
    (Json.afterColon (Json.value (Json.maxDepth - 1)) cs).map fun (_, rest) =>
      ({ w with unknown := if w.unknown.contains name then w.unknown else name :: w.unknown }, rest)

/-- A settings file. -/
def read : Reader SettingsFile := fun cs =>
  match Json.skipSpace cs with
  | [] => Json.failHere .endInValue []
  | '{' :: rest =>
    (Json.members readTopMember (rest.length + 1) ⟨none, []⟩ true rest).map fun (w, rest) =>
      (⟨w.given?.join.getD Layer.empty, w.unknown.reverse⟩, rest)
  | rest => Json.unexpected "struct FileConfig" rest

/-- The settings file that a text is. -/
def ofText (text : String) : Except Json.Error SettingsFile :=
  Json.whole read text

end SettingsFile

end TypedFilters
