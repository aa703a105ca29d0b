import TypedFilters.Files.Tree
import TypedFilters.Proofs.Settings.File
import TypedFilters.Proofs.Text.Octets
import TypedFilters.Settings

/-!
# Settings in layers

The command line, a settings file, the settings file of the profile and the defaults are layers, one
under the other. What takes effect is, for each setting by itself, what the first layer gives that gives
it (`TakesEffect`), and what stands below it has no say, not even a fault (`SameUnder`). The layers are
those that the files give (`ProfileGives`, `OverlayGives`): a file that is absent gives nothing, and one
that is there must be a settings file in UTF-8, and gives what its section gives. A settings file that the
command line names must be there, and takes the place of the one in the working directory.
`loaded_in_layers` says all this of the settings that are loaded, whatever zones are known.
-/

namespace TypedFilters

/-! ## Layers -/

/-- What the first layer gives that gives something, and else the default. -/
def firstGiven {α : Type} (standard : α) : List (Option α) → α
  | [] => standard
  | some x :: _ => x
  | none :: lower => firstGiven standard lower

/-- The settings are taken, each by itself, from the first of the layers that gives it, where the chosen
zone is known and no chosen limit is zero. -/
structure TakesEffect (zone? : String → Option Zone) (layers : List Layer) (settings : Settings) :
    Prop where
  encoding : settings.encoding = firstGiven .plain (layers.map Layer.encoding?)
  zone : zone? (firstGiven "UTC" (layers.map Layer.timezone?)) = some settings.zone
  maxFilters : settings.limits.maxFilters = firstGiven 50 (layers.map Layer.maxFilters?)
  maxJsonBytes : settings.limits.maxJsonBytes = firstGiven 65536 (layers.map Layer.maxJsonBytes?)
  maxFilters_ne_zero : settings.limits.maxFilters ≠ 0
  maxJsonBytes_ne_zero : settings.limits.maxJsonBytes ≠ 0

/-- The two layers differ at most in settings that the upper layer gives. -/
structure SameUnder (upper lower lower' : Layer) : Prop where
  encoding : upper.encoding?.isSome ∨ lower.encoding? = lower'.encoding?
  timezone : upper.timezone?.isSome ∨ lower.timezone? = lower'.timezone?
  maxFilters : upper.maxFilters?.isSome ∨ lower.maxFilters? = lower'.maxFilters?
  maxJsonBytes : upper.maxJsonBytes?.isSome ∨ lower.maxJsonBytes? = lower'.maxJsonBytes?

namespace Layer

/-- The layers as one, each over those behind it. -/
def stack (layers : List Layer) : Layer :=
  layers.foldr stackedOn empty

theorem getD_stack {α : Type} (setting : Layer → Option α) (nothing : setting empty = none)
    (stacked : ∀ upper lower, setting (upper.stackedOn lower) = (setting upper).or (setting lower))
    (standard : α) (layers : List Layer) :
    (setting (stack layers)).getD standard = firstGiven standard (layers.map setting) := by
  induction layers with
  | nil =>
    rw [stack, List.foldr_nil, nothing]
    rfl
  | cons layer layers ih =>
    rw [stack, List.foldr_cons, stacked, List.map_cons]
    cases setting layer with
    | none => exact ih
    | some x => rfl

theorem stackedOn_eq_of_sameUnder {upper lower lower' : Layer} (same : SameUnder upper lower lower') :
    upper.stackedOn lower = upper.stackedOn lower' := by
  have hidden : ∀ {α : Type} {a b c : Option α}, a.isSome ∨ b = c → a.or b = a.or c := by
    rintro α (_ | a) b c (given | eq)
    · cases given
    · rw [eq]
    · rfl
    · rfl
  rw [stackedOn, stackedOn, hidden same.encoding, hidden same.timezone, hidden same.maxFilters,
    hidden same.maxJsonBytes]

theorem stackedOn_assoc (a b c : Layer) : (a.stackedOn b).stackedOn c = a.stackedOn (b.stackedOn c) := by
  simp only [stackedOn, Option.or_assoc]

theorem stackedOn_empty (layer : Layer) : layer.stackedOn empty = layer := by
  simp only [stackedOn, empty, Option.or_none]

end Layer

/-- A stack of layers is resolved to the settings that take effect. -/
theorem Settings.ofLayer_stack_eq_ok_iff {zone? : String → Option Zone} {layers : List Layer}
    {settings : Settings} :
    ofLayer zone? (.stack layers) = .ok settings ↔ TakesEffect zone? layers settings := by
  have first : ∀ {α : Type} (setting : Layer → Option α), setting .empty = none →
      (∀ upper lower, setting (upper.stackedOn lower) = (setting upper).or (setting lower)) →
      ∀ standard, (setting (.stack layers)).getD standard = firstGiven standard (layers.map setting) :=
    fun setting nothing stacked standard => Layer.getD_stack setting nothing stacked standard layers
  have encoding := first Layer.encoding? rfl (fun _ _ => rfl) .plain
  have timezone := first Layer.timezone? rfl (fun _ _ => rfl) "UTC"
  have maxFilters := first Layer.maxFilters? rfl (fun _ _ => rfl) Limits.standard.maxFilters
  have maxJsonBytes := first Layer.maxJsonBytes? rfl (fun _ _ => rfl) Limits.standard.maxJsonBytes
  simp only [ofLayer, encoding, timezone, maxFilters, maxJsonBytes]
  cases known : zone? (firstGiven "UTC" (layers.map Layer.timezone?)) with
  | none =>
    refine iff_of_false nofun fun effect => ?_
    cases known.symm.trans effect.zone
  | some zone =>
    dsimp only
    split
    · next zero =>
      refine iff_of_false nofun fun effect => ?_
      rcases zero with zero | zero
      · exact effect.maxFilters_ne_zero (effect.maxFilters.trans zero)
      · exact effect.maxJsonBytes_ne_zero (effect.maxJsonBytes.trans zero)
    · next nonzero =>
      rw [not_or] at nonzero
      constructor
      · rintro ⟨⟩
        exact ⟨rfl, known, rfl, rfl, nonzero.1, nonzero.2⟩
      · intro effect
        rcases settings with ⟨_, _, _, _⟩
        rcases effect with ⟨encoding, zone, maxFilters, maxJsonBytes, _, _⟩
        dsimp only at encoding zone maxFilters maxJsonBytes
        cases known.symm.trans zone
        rw [encoding, maxFilters, maxJsonBytes]
        rfl

/-! ## Files -/

/-- The entry holds a settings file in UTF-8 that gives the layer. -/
inductive Entry.Holds : Entry → Layer → Prop
  | file {text : String} {file : SettingsFile} (read : SettingsFile.ofText text = .ok file) :
      Holds (.file (Text.octets text)) file.layer

/-- The entry holds the layer, or leads nowhere and gives nothing. -/
inductive Entry.Gives : Entry → Layer → Prop
  | missing {fault : PathFault} : Gives (.nowhere fault) .empty
  | present {entry : Entry} {layer : Layer} (held : entry.Holds layer) : Gives entry layer

/-- The settings file of the profile gives the layer. Without a home directory there is none. -/
inductive ProfileGives (files : Files Id) : Layer → Prop
  | homeless (unknown : files.home? = none) : ProfileGives files .empty
  | home {home : String} {layer : Layer} (known : files.home? = some home)
      (gives : Entry.Gives (files.entry (Settings.profilePath home)) layer) : ProfileGives files layer

/-- The settings file that the command line names holds the layer, or if it names none, the one in the
working directory gives it. -/
inductive OverlayGives (files : Files Id) : Option String → Layer → Prop
  | named {given : String} {layer : Layer} (held : Entry.Holds (files.entry (files.expand given)) layer) :
      OverlayGives files (some given) layer
  | nearby {layer : Layer} (gives : Entry.Gives (files.entry (files.absolute settingsFileName)) layer) :
      OverlayGives files none layer

/-- The paths of the settings files that have a say. -/
def Files.consulted {m : Type → Type} (files : Files m) (config? : Option String) : List String :=
  (files.home?.map Settings.profilePath).toList ++
    [match config? with
      | some given => files.expand given
      | none => files.absolute settingsFileName]

namespace Settings

/-- The settings that are loaded from files that stay as they are, without the warnings. -/
def loaded (zone? : String → Option Zone) (files : Files Id) (overrides : Overrides) :
    Except SettingsFault Settings :=
  (Id.run (load files overrides zone?)).2

section Sources

variable {shown : String} {entry : Entry} {files : Files Id} {config? : Option String}
  {lower stacked layer : Layer}

theorem text_eq_ok_iff {text : String} : entry.text = .ok text ↔ entry = .file (Text.octets text) := by
  constructor
  · intro read
    unfold Entry.text at read
    split at read
    · next octets =>
      split at read
      · next utf8 =>
        cases read
        rw [Text.ofOctets?_eq_some_iff.mp utf8]
      · cases read
    all_goals cases read
  · rintro rfl
    rw [Entry.text, Text.ofOctets?_octets]

theorem ofEntry_eq_ok_iff {file : SettingsFile} :
    ofEntry shown entry = .ok file ↔
      ∃ text, entry.text = .ok text ∧ SettingsFile.ofText text = .ok file := by
  unfold ofEntry
  cases entry.text with
  | error fault => simp
  | ok text =>
    simp only [Except.ok.injEq, exists_eq_left']
    cases SettingsFile.ofText text <;> simp

theorem exists_of_holds_file {text : String} (held : Entry.Holds (.file (Text.octets text)) layer) :
    ∃ file, SettingsFile.ofText text = .ok file ∧ layer = file.layer := by
  generalize there : Entry.file (Text.octets text) = entry at held
  cases held with
  | file read =>
    have own : (Entry.file (Text.octets text)).text = .ok text := text_eq_ok_iff.mpr rfl
    obtain rfl := Except.ok.inj (own.symm.trans (text_eq_ok_iff.mpr there))
    exact ⟨_, read, rfl⟩

/-- A file that is read is put over the lower layers. -/
theorem addFile_some_eq_ok_iff : (addFile (some (shown, entry)) lower).2 = .ok stacked ↔
    ∃ layer, entry.Holds layer ∧ stacked = layer.stackedOn lower := by
  constructor
  · intro added
    rw [addFile] at added
    cases read : ofEntry shown entry with
    | error fault =>
      rw [read] at added
      cases added
    | ok file =>
      obtain ⟨text, octets, parsed⟩ := ofEntry_eq_ok_iff.mp read
      obtain rfl := text_eq_ok_iff.mp octets
      rw [read] at added
      cases added
      exact ⟨file.layer, .file parsed, rfl⟩
  · rintro ⟨_, held, rfl⟩
    cases held with
    | @file text file parsed =>
      have read : ofEntry shown (.file (Text.octets text)) = .ok file :=
        ofEntry_eq_ok_iff.mpr ⟨text, text_eq_ok_iff.mpr rfl, parsed⟩
      rw [addFile, read]

/-- A file that need not be there is put over the lower layers as what it gives. -/
theorem addFile_present_eq_ok_iff : (addFile (present shown entry) lower).2 = .ok stacked ↔
    ∃ layer, entry.Gives layer ∧ stacked = layer.stackedOn lower := by
  cases missing : entry.isPresent with
  | true =>
    rw [present, missing, if_pos rfl, addFile_some_eq_ok_iff]
    constructor
    · rintro ⟨layer, held, rfl⟩
      exact ⟨layer, .present held, rfl⟩
    · rintro ⟨layer, gives, rfl⟩
      cases gives with
      | missing => cases missing
      | present held => exact ⟨layer, held, rfl⟩
  | false =>
    rw [present, missing, if_neg Bool.false_ne_true, addFile]
    have nothing : Layer.empty.stackedOn lower = lower := rfl
    constructor
    · rintro ⟨⟩
      cases entry with
      | nowhere => exact ⟨.empty, .missing, nothing.symm⟩
      | directory | file | unreadable => cases missing
    · rintro ⟨layer, gives, rfl⟩
      cases gives with
      | missing => rw [nothing]
      | present held =>
        cases held
        cases missing

theorem addFile_profileFile_eq_ok_iff :
    (addFile (Id.run (profileFile files)) .empty).2 = .ok stacked ↔ ProfileGives files stacked := by
  unfold profileFile
  cases known : files.home? with
  | none =>
    constructor
    · rintro ⟨⟩
      exact .homeless known
    · intro gives
      cases gives with
      | homeless => rfl
      | home known' => cases known.symm.trans known'
  | some home =>
    refine addFile_present_eq_ok_iff.trans ?_
    constructor
    · rintro ⟨layer, gives, rfl⟩
      rw [Layer.stackedOn_empty]
      exact .home known gives
    · intro gives
      cases gives with
      | homeless unknown => cases known.symm.trans unknown
      | home known' gives =>
        cases known.symm.trans known'
        exact ⟨stacked, gives, (Layer.stackedOn_empty stacked).symm⟩

theorem overlayFile_of_isPresent {given : String} {found : Entry}
    (there : files.entry (files.expand given) = found) (present : found.isPresent) :
    Id.run (overlayFile files (some given)) = .ok (some (files.expand given, found)) := by
  rw [← there] at present ⊢
  exact if_pos present

theorem overlayFile_of_nowhere {given : String} {fault : PathFault}
    (missing : files.entry (files.expand given) = .nowhere fault) :
    Id.run (overlayFile files (some given)) = .error (.notFound (files.expand given)) := by
  have absent : ¬ Entry.isPresent (files.entry (files.expand given)) := by
    rw [missing]
    exact Bool.false_ne_true
  exact if_neg absent

/-- A file that is named must be there, and is then put over the lower layers. -/
theorem addFile_overlayFile_eq_ok_iff :
    (∃ file?, Id.run (overlayFile files config?) = .ok file? ∧ (addFile file? lower).2 = .ok stacked) ↔
      ∃ layer, OverlayGives files config? layer ∧ stacked = layer.stackedOn lower := by
  cases config? with
  | none =>
    constructor
    · rintro ⟨_, ⟨⟩, added⟩
      obtain ⟨layer, gives, rfl⟩ := addFile_present_eq_ok_iff.mp added
      exact ⟨layer, .nearby gives, rfl⟩
    · rintro ⟨layer, gives, rfl⟩
      cases gives with
      | nearby gives => exact ⟨_, rfl, addFile_present_eq_ok_iff.mpr ⟨layer, gives, rfl⟩⟩
  | some given =>
    constructor
    · rintro ⟨file?, found, added⟩
      cases there : files.entry (files.expand given) with
      | nowhere =>
        rw [overlayFile_of_nowhere there] at found
        cases found
      | directory | file | unreadable =>
        rw [overlayFile_of_isPresent there rfl] at found
        cases found
        obtain ⟨layer, held, rfl⟩ := addFile_some_eq_ok_iff.mp added
        rw [← there] at held
        exact ⟨layer, .named held, rfl⟩
    · rintro ⟨layer, gives, rfl⟩
      cases gives with
      | named held =>
        have present : Entry.isPresent (files.entry (files.expand given)) := by
          cases there : files.entry (files.expand given) with
          | nowhere =>
            rw [there] at held
            cases held
          | directory | file | unreadable => rfl
        exact ⟨_, overlayFile_of_isPresent rfl present, addFile_some_eq_ok_iff.mpr ⟨layer, held, rfl⟩⟩

end Sources

/-! ## All layers -/

section Layers

variable {zone? : String → Option Zone} {files files' : Files Id} {overrides : Overrides}
  {profile overlay : Layer}

/-- The profile decides first, then the overlay, then the layers as a whole. -/
theorem combine_eq_bind (upper : Layer) (profile? : Option (String × Entry))
    (overlay? : Except SettingsFault (Option (String × Entry))) :
    (combine zone? upper profile? overlay?).2 = (addFile profile? .empty).2.bind fun profile =>
      overlay?.bind fun file? => (addFile file? profile).2.bind fun lower =>
        ofLayer zone? (upper.stackedOn lower) := by
  unfold combine
  rcases addFile profile? .empty with ⟨warnings, fault | profile⟩
  · rfl
  rcases overlay? with fault | file?
  · rfl
  rcases added : addFile file? profile with ⟨more, fault | lower⟩
  · simp [added, Except.bind]
  · simp [added, Except.bind]

theorem loaded_eq_bind (files : Files Id) (overrides : Overrides) :
    loaded zone? files overrides = (addFile (Id.run (profileFile files)) .empty).2.bind fun profile =>
      (Id.run (overlayFile files overrides.config?)).bind fun file? =>
        (addFile file? profile).2.bind fun lower => ofLayer zone? (overrides.layer.stackedOn lower) :=
  combine_eq_bind _ _ _

/-- Where the files give layers, the settings are those of the stack. -/
theorem loaded_eq_ofLayer (profileGives : ProfileGives files profile)
    (overlayGives : OverlayGives files overrides.config? overlay) :
    loaded zone? files overrides = ofLayer zone? (.stack [overrides.layer, overlay, profile]) := by
  obtain ⟨file?, found, added⟩ := addFile_overlayFile_eq_ok_iff.mpr ⟨overlay, overlayGives, rfl⟩
  have stack : Layer.stack [overrides.layer, overlay, profile] =
      overrides.layer.stackedOn (overlay.stackedOn profile) := by
    simp only [Layer.stack, List.foldr_cons, List.foldr_nil, Layer.stackedOn_empty]
  rw [loaded_eq_bind, addFile_profileFile_eq_ok_iff.mpr profileGives, Except.bind, found, Except.bind,
    added, Except.bind, stack]

/-- Settings are loaded only where all files give layers. -/
theorem exists_of_loaded_eq_ok {settings : Settings} (ok : loaded zone? files overrides = .ok settings) :
    ∃ profile overlay, ProfileGives files profile ∧ OverlayGives files overrides.config? overlay := by
  rw [loaded_eq_bind] at ok
  obtain ⟨profile, profileAdded, ok⟩ := Json.bind_eq_ok_iff.mp ok
  obtain ⟨file?, found, ok⟩ := Json.bind_eq_ok_iff.mp ok
  obtain ⟨lower, added, _⟩ := Json.bind_eq_ok_iff.mp ok
  obtain ⟨overlay, overlayGives, _⟩ := addFile_overlayFile_eq_ok_iff.mp ⟨file?, found, added⟩
  exact ⟨profile, overlay, addFile_profileFile_eq_ok_iff.mp profileAdded, overlayGives⟩

theorem loaded_eq_ok_iff {settings : Settings} : loaded zone? files overrides = .ok settings ↔
    ∃ profile overlay, ProfileGives files profile ∧ OverlayGives files overrides.config? overlay ∧
      TakesEffect zone? [overrides.layer, overlay, profile] settings := by
  constructor
  · intro ok
    obtain ⟨profile, overlay, profileGives, overlayGives⟩ := exists_of_loaded_eq_ok ok
    rw [loaded_eq_ofLayer profileGives overlayGives] at ok
    exact ⟨profile, overlay, profileGives, overlayGives, ofLayer_stack_eq_ok_iff.mp ok⟩
  · rintro ⟨profile, overlay, profileGives, overlayGives, effect⟩
    rw [loaded_eq_ofLayer profileGives overlayGives]
    exact ofLayer_stack_eq_ok_iff.mpr effect

/-- A settings file that is named and is not there is a fault. -/
theorem loaded_of_nowhere {given : String} {fault : PathFault} (profileGives : ProfileGives files profile)
    (named : overrides.config? = some given)
    (missing : files.entry (files.expand given) = .nowhere fault) :
    loaded zone? files overrides = .error (.notFound (files.expand given)) := by
  rw [loaded_eq_bind, addFile_profileFile_eq_ok_iff.mpr profileGives, named,
    overlayFile_of_nowhere missing]
  rfl

/-- Settings are loaded from the consulted files only. -/
theorem load_eq_of_consulted (home : files'.home? = files.home?)
    (workingDirectory : files'.workingDirectory = files.workingDirectory)
    (same : ∀ path ∈ files.consulted overrides.config?, files'.entry path = files.entry path) :
    load files' overrides zone? = load files overrides zone? := by
  simp only [Files.consulted, List.forall_mem_append, List.forall_mem_singleton] at same
  rcases same with ⟨profileSame, overlaySame⟩
  have profile : profileFile files' = profileFile files := by
    unfold profileFile
    rw [home]
    cases known : files.home? with
    | none => rfl
    | some home =>
      rw [known] at profileSame
      simp only [profileSame (profilePath home) List.mem_cons_self]
  have overlay : overlayFile files' overrides.config? = overlayFile files overrides.config? := by
    unfold overlayFile
    cases named : overrides.config? with
    | none =>
      rw [named] at overlaySame
      simp only [Files.absolute, workingDirectory] at overlaySame ⊢
      rw [overlaySame]
    | some given =>
      rw [named] at overlaySame
      simp only [Files.expand, home, workingDirectory] at overlaySame ⊢
      rw [overlaySame]
  rw [load, load, profile, overlay]

/-- What stands under a layer that gives a setting has no say in it, whatever it is. -/
theorem loaded_eq_of_sameUnder {profile' overlay' : Layer} (profileGives : ProfileGives files profile)
    (overlayGives : OverlayGives files overrides.config? overlay)
    (profileGives' : ProfileGives files' profile')
    (overlayGives' : OverlayGives files' overrides.config? overlay')
    (overlaySame : SameUnder overrides.layer overlay overlay')
    (profileSame : SameUnder (overrides.layer.stackedOn overlay) profile profile') :
    loaded zone? files' overrides = loaded zone? files overrides := by
  have same : Layer.stack [overrides.layer, overlay', profile'] =
      .stack [overrides.layer, overlay, profile] := by
    simp only [Layer.stack, List.foldr_cons, List.foldr_nil, Layer.stackedOn_empty,
      ← Layer.stackedOn_assoc]
    rw [← Layer.stackedOn_eq_of_sameUnder overlaySame, ← Layer.stackedOn_eq_of_sameUnder profileSame]
  rw [loaded_eq_ofLayer profileGives overlayGives, loaded_eq_ofLayer profileGives' overlayGives', same]

/-- How settings are loaded. -/
structure LayerLaw (zone? : String → Option Zone) (files : Files Id) (overrides : Overrides) : Prop where
  /-- All files that have a say give layers, and the settings are those that take effect of them. -/
  ok_iff : ∀ settings, loaded zone? files overrides = .ok settings ↔
    ∃ profile overlay, ProfileGives files profile ∧ OverlayGives files overrides.config? overlay ∧
      TakesEffect zone? [overrides.layer, overlay, profile] settings
  /-- A settings file that is named must be there. -/
  named : ∀ profile given fault, ProfileGives files profile → overrides.config? = some given →
    files.entry (files.expand given) = .nowhere fault →
    loaded zone? files overrides = .error (.notFound (files.expand given))
  /-- No other file has a say, and neither has the one in the working directory if one is named. -/
  consulted : ∀ files' : Files Id, files'.home? = files.home? →
    files'.workingDirectory = files.workingDirectory →
    (∀ path ∈ files.consulted overrides.config?, files'.entry path = files.entry path) →
    load files' overrides zone? = load files overrides zone?
  /-- A setting that a higher layer gives may be anything in a lower one, also an unknown zone or zero. -/
  hidden : ∀ (files' : Files Id) profile overlay profile' overlay', ProfileGives files profile →
    OverlayGives files overrides.config? overlay → ProfileGives files' profile' →
    OverlayGives files' overrides.config? overlay' → SameUnder overrides.layer overlay overlay' →
    SameUnder (overrides.layer.stackedOn overlay) profile profile' →
    loaded zone? files' overrides = loaded zone? files overrides
  /-- A file without the section of settings gives nothing. -/
  sectionless : ∀ path text kept, files.entry path = .file (Text.octets text) →
    Json.document text = .ok (.object kept) → (Json.Value.object kept).member? "filters" = none →
    Entry.Holds (files.entry path) .empty
  /-- What a file holds is given by its section, each setting by the part of its own name. -/
  given : ∀ path text kept layer, files.entry path = .file (Text.octets text) →
    Json.document text = .ok (.object kept) → Entry.Holds (files.entry path) layer →
    SettingsFile.GivenBy ((Json.Value.object kept).member? "filters") layer

/-- Settings are loaded by layers, whatever the known zones, the files and the command line. -/
theorem loaded_in_layers (zone? : String → Option Zone) (files : Files Id) (overrides : Overrides) :
    LayerLaw zone? files overrides where
  ok_iff _ := loaded_eq_ok_iff
  named _ _ _ := loaded_of_nowhere
  consulted _ := load_eq_of_consulted
  hidden _ _ _ _ _ := loaded_eq_of_sameUnder
  sectionless path text kept there document absent := by
    obtain ⟨file, read, nothing⟩ := SettingsFile.exists_of_no_section document absent
    rw [there, ← nothing]
    exact .file read
  given path text kept layer there document held := by
    rw [there] at held
    obtain ⟨file, read, rfl⟩ := exists_of_holds_file held
    exact SettingsFile.givenBy_of_document read document

/-- The zone and the limit of the profile cannot be used, but the layers above it give others. The encoding
and the zone come from the nearby file, and one limit comes from the profile. -/
theorem loaded_in_layers_of_unusable_profile :
    let profile := "\x7b\"filters\":\x7b\"timezone\":\"Mars\",\"max_filters\":0,\"max_json_bytes\":9\x7d\x7d"
    let nearby := "\x7b\"x\":[],\"filters\":\x7b\"timezone\":\"Asia/Tokyo\",\"encoding\":\"url\"\x7d\x7d"
    let tree := (FileTree.empty.put "/home/.tracefilter/tracefilter.json"
      (.file (Text.octets profile))).put "/work/tracefilter.json" (.file (Text.octets nearby))
    let files := tree.files (some "/home") "/work"
    let overrides : Overrides := ⟨none, ⟨none, none, some 3, none⟩⟩
    let tokyo : Zone := ⟨"Asia/Tokyo", 33539, Zone.asiaTokyoChanges⟩
    let part : Json.Value := .object [("timezone", .string "Asia/Tokyo"), ("encoding", .string "url")]
    loaded Zone.named? files overrides = .ok ⟨.url, tokyo, ⟨3, 9⟩⟩ ∧
      Entry.Holds (files.entry "/work/tracefilter.json") ⟨some .url, some "Asia/Tokyo", none, none⟩ ∧
      SettingsFile.GivenBy (some part) ⟨some .url, some "Asia/Tokyo", none, none⟩ := by
  intro profile nearby tree files overrides tokyo part
  have law := loaded_in_layers Zone.named? files overrides
  have profileThere : tree.entry (profilePath "/home") = .file (Text.octets profile) := by
    subst tree
    decide +kernel
  have nearbyThere : tree.entry "/work/tracefilter.json" = .file (Text.octets nearby) := by
    subst tree
    decide +kernel
  have nearbyPath : files.absolute settingsFileName = "/work/tracefilter.json" := by
    subst files
    decide +kernel
  have profileRead : SettingsFile.ofText profile = .ok ⟨⟨none, some "Mars", some 0, some 9⟩, []⟩ := by
    subst profile
    decide +kernel
  have nearbyRead : SettingsFile.ofText nearby = .ok ⟨⟨some .url, some "Asia/Tokyo", none, none⟩, ["x"]⟩ := by
    subst nearby
    decide +kernel
  have profileHolds : Entry.Holds (tree.entry (profilePath "/home")) ⟨none, some "Mars", some 0, some 9⟩ :=
    profileThere ▸ .file profileRead
  have nearbyHolds : Entry.Holds (tree.entry "/work/tracefilter.json")
      ⟨some .url, some "Asia/Tokyo", none, none⟩ := nearbyThere ▸ .file nearbyRead
  have profileGives : ProfileGives files ⟨none, some "Mars", some 0, some 9⟩ :=
    .home rfl (.present profileHolds)
  have overlayGives : OverlayGives files none ⟨some .url, some "Asia/Tokyo", none, none⟩ :=
    .nearby (nearbyPath ▸ .present nearbyHolds)
  have document : Json.document nearby = .ok (.object [("x", .array []), ("filters", part)]) := by
    subst nearby part
    rfl
  have effect : TakesEffect Zone.named? [overrides.layer, ⟨some .url, some "Asia/Tokyo", none, none⟩,
      ⟨none, some "Mars", some 0, some 9⟩] ⟨.url, tokyo, ⟨3, 9⟩⟩ := by
    refine ⟨rfl, ?_, rfl, rfl, by decide, by decide⟩
    subst overrides tokyo
    decide +kernel
  exact ⟨(law.ok_iff _).mpr ⟨_, _, profileGives, overlayGives, effect⟩, nearbyHolds,
    law.given "/work/tracefilter.json" nearby _ _ nearbyThere document nearbyHolds⟩

end Layers

end Settings

end TypedFilters
