import TypedFilters.Files.Access
import TypedFilters.Intake
import TypedFilters.Logging.Record
import TypedFilters.Settings.File
import TypedFilters.Time.Zone.Database

/-!
# Settings

Settings come in layers: the command line, then one settings file, then the settings file of the
user's profile, then the defaults. Each setting is taken from the first layer that gives it. The
settings file is the one that the command line names, which must exist, or else the one in the working
directory, if there is one. Zones are looked up in a table of known zones, which is a parameter.
-/

namespace TypedFilters

/-- The name of settings files. -/
def settingsFileName : String := "tracefilter.json"

/-- The directory of the user's profile, in the home directory. -/
def profileDirectory : String := ".tracefilter"

/-- The settings that take effect. -/
structure Settings where
  encoding : Encoding
  zone : Zone
  limits : Limits
  deriving DecidableEq, Repr

/-- What the command line says about settings. -/
structure Overrides where
  config? : Option String
  layer : Layer
  deriving DecidableEq, Repr

/-- Why no settings take effect. -/
inductive SettingsFault where
  | notFound (path : String)
  | unreadable (path : String) (fault : ReadFault)
  | malformed (path : String) (error : Json.Error)
  | unknownZone (name : String)
  | zeroLimit
  deriving DecidableEq, Repr

/-- What is said when no settings take effect. -/
def SettingsFault.message : SettingsFault → String
  | notFound path => s!"Config file not found: {path}"
  | unreadable path fault => s!"Failed to read config file: {path}: {fault.message}"
  | malformed path error => s!"Failed to parse config file: {path}: {error.message}"
  | unknownZone name => s!"Invalid timezone '{name}'"
  | zeroLimit => "max_filters and max_json_bytes must be greater than 0"

namespace Settings

/-- The settings of a layer over the defaults. The zone must be known and no limit may be zero. -/
def ofLayer (zone? : String → Option Zone) (layer : Layer) : Except SettingsFault Settings :=
  let zoneName := layer.timezone?.getD "UTC"
  match zone? zoneName with
  | none => .error (.unknownZone zoneName)
  | some zone =>
    let limits : Limits :=
      ⟨layer.maxFilters?.getD Limits.standard.maxFilters,
        layer.maxJsonBytes?.getD Limits.standard.maxJsonBytes⟩
    if limits.maxFilters = 0 ∨ limits.maxJsonBytes = 0 then .error .zeroLimit
    else .ok ⟨layer.encoding?.getD .plain, zone, limits⟩

/-- How lists are taken in under the settings. -/
def intake (settings : Settings) : Intake :=
  .ofEncoding settings.encoding settings.zone settings.limits

/-! ## Settings files -/

/-- The settings file that an entry holds; `shown` is its path in messages. -/
def ofEntry (shown : String) (entry : Entry) : Except SettingsFault SettingsFile :=
  match entry.text with
  | .error fault => .error (.unreadable shown fault)
  | .ok text =>
    match SettingsFile.ofText text with
    | .error e => .error (.malformed shown e)
    | .ok file => .ok file

/-- The warning about a settings file with unknown members. -/
def warnings (file : SettingsFile) : List LogRecord :=
  if file.unknown.isEmpty then [] else [.unknownSettings file.unknown]

/-- The file of one source, if there is one, put over the layer of the lower sources. -/
def addFile (file? : Option (String × Entry)) (lower : Layer) :
    List LogRecord × Except SettingsFault Layer :=
  match file? with
  | none => ([], .ok lower)
  | some (shown, entry) =>
    match ofEntry shown entry with
    | .error fault => ([], .error fault)
    | .ok file => (warnings file, .ok (file.layer.stackedOn lower))

/-- The settings of all layers, with the warnings on the way. The profile is read first; the overlay
is a fault when the file that the command line names does not exist. -/
def combine (zone? : String → Option Zone) (upper : Layer) (profile? : Option (String × Entry))
    (overlay? : Except SettingsFault (Option (String × Entry))) :
    List LogRecord × Except SettingsFault Settings :=
  match addFile profile? Layer.empty with
  | (warnings, .error fault) => (warnings, .error fault)
  | (warnings, .ok profile) =>
    match overlay? with
    | .error fault => (warnings, .error fault)
    | .ok overlay? =>
      match addFile overlay? profile with
      | (more, .error fault) => (warnings ++ more, .error fault)
      | (more, .ok lower) => (warnings ++ more, ofLayer zone? (upper.stackedOn lower))

/-- A file under its path in messages, if it is present. -/
def present (shown : String) (entry : Entry) : Option (String × Entry) :=
  if entry.isPresent then some (shown, entry) else none

/-- The path of the profile's settings file. -/
def profilePath (home : String) : String :=
  Path.join (Path.join home profileDirectory) settingsFileName

section Loading

variable {m : Type → Type} [Monad m]

/-- The profile's settings file, if it is present. -/
def profileFile (files : Files m) : m (Option (String × Entry)) :=
  match files.home? with
  | none => pure none
  | some home => do
    let path := profilePath home
    let entry ← files.entry path
    pure (present path entry)

/-- The settings file that the command line names, or else the one in the working directory. -/
def overlayFile (files : Files m) (config? : Option String) :
    m (Except SettingsFault (Option (String × Entry))) :=
  match config? with
  | some given => do
    let path := files.expand given
    let entry ← files.entry path
    pure (if entry.isPresent then .ok (some (path, entry)) else .error (.notFound path))
  | none => do
    let entry ← files.entry (files.absolute settingsFileName)
    pure (.ok (present settingsFileName entry))

/-- The settings that take effect, with the warnings on the way. -/
def load (files : Files m) (overrides : Overrides) (zone? : String → Option Zone := Zone.named?) :
    m (List LogRecord × Except SettingsFault Settings) := do
  let profile? ← profileFile files
  let overlay? ← overlayFile files overrides.config?
  pure (combine zone? overrides.layer profile? overlay?)

end Loading

end Settings

end TypedFilters
