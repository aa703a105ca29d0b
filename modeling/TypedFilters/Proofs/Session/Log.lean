import TypedFilters.Main
import TypedFilters.Proofs.Session

/-!
# Refusals in the log

A run that parses a list and writes its log as JSON leaves a log in which every line is read back as the
record that was written (`Outcome.logValues_eq_map`). At the default level all records are let through
(`admitsRecord_defaultLogFilter`), and those about settings files are never mistaken for a refusal, so the
refusals that can be read off the log are those that the parsing has put there (`rejections_of_parses`). It
puts one there for a list of which an item is refused, and none for a list that is accepted; but a list that
is refused as a whole never gets as far as the log (`refused_items_logged_once`, `bad_syntax_not_logged`).
-/

namespace TypedFilters

/-! ## What can be read off a log -/

/-- The text of a detail of a record in JSON. -/
def Json.Value.detail? (v : Json.Value) (name : String) : Option String :=
  ((v.member? "fields").bind fun details => details.member? name).bind Json.Value.string?

namespace Outcome

/-- The lines of the log that a run leaves behind. -/
def logLines (o : Outcome) : List String :=
  o.logs.map (logLine o.logJson)

/-- The lines of the log that are JSON, as values. -/
def logValues (o : Outcome) : List Json.Value :=
  o.logLines.filterMap fun line => (Json.document line).toOption

/-- The records in JSON that say that a list is refused. -/
def rejections (o : Outcome) : List Json.Value :=
  o.logValues.filter fun v => v.detail? "message" == some "Rejected filter list"

end Outcome

/-- The record in JSON is a warning that tells of a refusal, with its code and, as far as they are known, its
index and its field. -/
structure LogRecord.TellsRefusal (v : Json.Value) (entity? : Option Entity) (e : FilterError) : Prop where
  level : v.member? "level" = some (.string "WARN")
  message : v.detail? "message" = some "Rejected filter list"
  entity : v.detail? "entity" = some ((entity?.map Entity.name).getD "mixed")
  code : v.detail? "code" = some e.code
  index : v.detail? "index" = some (optionalText (e.index?.map toString))
  field : v.detail? "field" = some (optionalText (e.field?.map Text.quoted))
  error : v.detail? "error" = some e.fault.message

/-! ## Records in JSON -/

namespace LogRecord

variable {r : LogRecord}

theorem tellsRefusal_toJson (entity? : Option Entity) (e : FilterError) :
    TellsRefusal (rejectedList entity? e).toJson entity? e :=
  ⟨rfl, rfl, rfl, rfl, rfl, rfl, rfl⟩

theorem detail?_message_toJson (r : LogRecord) : r.toJson.detail? "message" = some r.message := by
  cases r <;> rfl

/-- No detail of a record has the name of another one, or that of the message. -/
theorem nodup_detailNames (r : LogRecord) : (messageName :: r.details.map Prod.fst).Nodup := by
  cases r with
  | unknownSettings names => exact show ["message", "fields"].Nodup by decide
  | rejectedList entity? e =>
    exact show ["message", "entity", "code", "index", "field", "error"].Nodup by decide
  | invalidTable fault => exact show ["message", "error"].Nodup by decide
  | internalError noticed text => exact show ["message"].Nodup by decide

/-- A record can be read back. -/
theorem readable_toJson (r : LogRecord) : Json.Readable Json.maxDepth r.toJson := by
  have names : (((messageName, Json.Value.string r.message) ::
      r.details.map fun d => (d.1, Json.Value.string d.2)).map Prod.fst).Nodup := by
    rw [List.map_cons, List.map_map]
    exact nodup_detailNames r
  refine .object (show ["level", "fields"].Nodup by decide) ?_
  refine List.forall_mem_cons.mpr ⟨.string, List.forall_mem_singleton.mpr (.object names ?_)⟩
  refine List.forall_mem_cons.mpr ⟨.string, ?_⟩
  rw [List.forall_mem_map]
  exact fun _ _ => .string

end LogRecord

/-- The lines of a log in JSON are its records. -/
theorem Outcome.logValues_eq_map {o : Outcome} (json : o.logJson) :
    o.logValues = o.logs.map LogRecord.toJson := by
  rw [logValues, logLines, List.filterMap_map, ← List.filterMap_eq_map]
  refine List.filterMap_congr fun r _ => ?_
  rw [Function.comp_apply, logLine, if_pos json, Json.document_compact r.readable_toJson]
  rfl

/-! ## Records that are let through -/

/-- The parts of the program that records come from. -/
def logTargets : List String :=
  ["tracefilter::core::config", "tracefilter::filters::parser", "tracefilter::filters::schema",
    "tracefilter::app", "tracefilter::api::types"]

theorem LogRecord.target_mem_logTargets (r : LogRecord) : r.target ∈ logTargets := by
  cases r with
  | unknownSettings names => exact show "tracefilter::core::config" ∈ logTargets by decide
  | rejectedList entity? e => exact show "tracefilter::filters::parser" ∈ logTargets by decide
  | invalidTable fault => exact show "tracefilter::filters::schema" ∈ logTargets by decide
  | internalError noticed text =>
    cases noticed with
    | inRun => exact show "tracefilter::app" ∈ logTargets by decide
    | inResponse => exact show "tracefilter::api::types" ∈ logTargets by decide

theorem LogRecord.rank_level_le (r : LogRecord) : r.level.rank ≤ LogLevel.warn.rank := by
  cases r with
  | unknownSettings | rejectedList => exact Nat.le_refl 2
  | invalidTable | internalError => exact Nat.le_succ 1

/-- Every record is let through by default. -/
theorem admitsRecord_defaultLogFilter (r : LogRecord) : admitsRecord Session.defaultLogFilter r := by
  have directives : logDirectives Session.defaultLogFilter =
      [⟨"", none, .warn⟩, ⟨"tracefilter", none, .info⟩] := by
    decide +kernel
  have all : ∀ t ∈ logTargets,
      "".toList.isPrefixOf t.toList ∧ "tracefilter".toList.isPrefixOf t.toList := by
    decide +kernel
  have applied : ∀ d ∈ logDirectives Session.defaultLogFilter, d.applies r := by
    obtain ⟨whole, program⟩ := all _ r.target_mem_logTargets
    simp only [directives, List.forall_mem_cons, LogDirective.applies, whole, program, Option.all_none,
      Bool.and_self, List.not_mem_nil, false_imp_iff, implies_true, and_self]
  have level : admittedLevel r (logDirectives Session.defaultLogFilter) = .info := by
    rw [admittedLevel, List.filter_eq_self.mpr applied]
    decide +kernel
  rw [admitsRecord, level, decide_eq_true_eq]
  exact Nat.le_succ_of_le r.rank_level_le

namespace Settings

section Loading

variable {zone? : String → Option Zone} {r : LogRecord}

/-- Every warning about the settings is one about a settings file. -/
theorem exists_addFile_of_combine {upper : Layer} {profile? : Option (String × Entry)}
    {overlay? : Except SettingsFault (Option (String × Entry))}
    (logged : r ∈ (combine zone? upper profile? overlay?).1) : ∃ file? lower, r ∈ (addFile file? lower).1 := by
  unfold combine at logged
  split at logged
  · next added => exact ⟨profile?, .empty, by rwa [added]⟩
  · next warnings profile added =>
    have first : r ∈ warnings → ∃ file? lower, r ∈ (addFile file? lower).1 :=
      fun ofProfile => ⟨profile?, .empty, by rwa [added]⟩
    split at logged
    · exact first logged
    · next overlay? =>
      split at logged
      all_goals
        next addedOver =>
          rcases List.mem_append.mp logged with ofProfile | ofOverlay
          · exact first ofProfile
          · exact ⟨overlay?, profile, by rwa [addedOver]⟩

theorem message_ne_of_addFile {file? : Option (String × Entry)} {lower : Layer}
    (logged : r ∈ (addFile file? lower).1) : r.message ≠ "Rejected filter list" := by
  unfold addFile at logged
  split at logged
  · cases logged
  split at logged
  · cases logged
  · unfold warnings at logged
    split at logged
    · cases logged
    · cases List.mem_singleton.mp logged
      exact show "Unknown fields in config file (possible typos)" ≠ _ by decide

/-- No warning about the settings says that a list is refused. -/
theorem message_ne_of_load {files : Files Id} {overrides : Overrides}
    (logged : r ∈ (Id.run (load files overrides zone?)).1) : r.message ≠ "Rejected filter list" := by
  have combined : Id.run (load files overrides zone?) = combine zone? overrides.layer
      (Id.run (profileFile files)) (Id.run (overlayFile files overrides.config?)) := rfl
  rw [combined] at logged
  obtain ⟨file?, lower, ofFile⟩ := exists_addFile_of_combine logged
  exact message_ne_of_addFile ofFile

end Loading

variable {settings : Settings} {entity? : Option Entity} {text : String} {e : FilterError}

/-- A list that is refused as a whole is refused as soon as its text is read, and leaves no log. -/
theorem parseLogged_of_whole (whole : settings.intake.readList text = .error e) :
    settings.parseLogged entity? text = ([], .error e) := by
  cases entity? with
  | some entity => rw [parseLogged, Intake.parseLogged, whole]
  | none => rw [parseLogged, Intake.parseTaggedLogged, whole]

/-- The items of a list are resolved one by one, and what comes of them is logged. -/
theorem exists_parseLogged_eq {items : List Json.Value} (list : settings.intake.readList text = .ok items) :
    ∃ one, settings.parseLogged entity? text = Intake.logOutcome entity? (Intake.resolveAll one 0 items) := by
  cases entity? with
  | some entity => exact ⟨settings.intake.resolveItem entity, by rw [parseLogged, Intake.parseLogged, list]⟩
  | none => exact ⟨settings.intake.resolveTagged, by rw [parseLogged, Intake.parseTaggedLogged, list]⟩

theorem parse_of_whole (whole : settings.intake.readList text = .error e) :
    settings.parse entity? text = .error e := by
  rw [parse, parseLogged_of_whole whole]

/-- Once the items of a list are read, what is logged tells of the result. -/
theorem logs_parseLogged {items : List Json.Value} (list : settings.intake.readList text = .ok items) :
    (settings.parseLogged entity? text).1 =
      Intake.outcomeRecords entity? (settings.parse entity? text) := by
  obtain ⟨one, logged⟩ := @exists_parseLogged_eq settings entity? text items list
  rw [parse, logged]
  rfl

/-- All that is logged by the parsing tells of refusals, and nothing is logged unless the list is refused. -/
theorem exists_of_mem_logs {r : LogRecord} (logged : r ∈ (settings.parseLogged entity? text).1) :
    ∃ e, settings.parse entity? text = .error e ∧ r = .rejectedList entity? e := by
  cases list : settings.intake.readList text with
  | error e =>
    rw [parseLogged_of_whole list] at logged
    cases logged
  | ok items =>
    rw [logs_parseLogged list] at logged
    cases parsed : settings.parse entity? text with
    | ok filters =>
      rw [parsed] at logged
      cases logged
    | error e =>
      rw [parsed] at logged
      exact ⟨e, rfl, List.mem_singleton.mp logged⟩

theorem logs_of_accepted {filters : List Filter} (accepted : settings.parse entity? text = .ok filters) :
    (settings.parseLogged entity? text).1 = [] := by
  refine List.eq_nil_iff_forall_not_mem.mpr fun r logged => ?_
  obtain ⟨e, refused, _⟩ := exists_of_mem_logs logged
  cases accepted.symm.trans refused

end Settings

/-- Of descriptors too, a refusal is logged if one of them is refused, and not if they are too many. -/
theorem Intake.logs_ofDescriptorsLogged (intake : Intake) (entity : Entity) (descriptors : List Descriptor) :
    (intake.ofDescriptorsLogged entity descriptors).1 =
      if intake.limits.maxFilters < descriptors.length then []
      else outcomeRecords (some entity) (intake.ofDescriptors entity descriptors) := by
  rw [ofDescriptors, ofDescriptorsLogged, checkCount]
  by_cases tooMany : intake.limits.maxFilters < descriptors.length
  · rw [if_pos tooMany, if_pos tooMany]
  · rw [if_neg tooMany, if_neg tooMany]
    rfl

/-! ## Runs -/

namespace Session

variable {zone? : String → Option Zone} {files : Files Id} {stdin : List UInt8} {env : Environment}
  {words : List String} {settings : Settings} {entity? : Option Entity} {text : String}

/-- The refusals in the log of a run are those that the parsing has put there. -/
theorem rejections_of_parses (parses : Parses zone? files stdin env words settings entity? text)
    (json : (outcome zone? files stdin env words).logJson)
    (level : logFilter (Id.run (EnvFile.load files env)) = defaultLogFilter) :
    (outcome zone? files stdin env words).rejections =
      (settings.parseLogged entity? text).1.map LogRecord.toJson := by
  obtain ⟨overrides, logJson, left⟩ := outcome_eq_of_parses parses
  have logs : (outcome zone? files stdin env words).logs =
      (Id.run (Settings.load files overrides zone?)).1 ++ (settings.parseLogged entity? text).1 := by
    rw [left, conclude, level]
    exact List.filter_eq_self.mpr fun r _ => admitsRecord_defaultLogFilter r
  rw [Outcome.rejections, Outcome.logValues_eq_map json, logs, List.filter_map, List.filter_append]
  have others : (Id.run (Settings.load files overrides zone?)).1.filter
      ((fun v => v.detail? "message" == some "Rejected filter list") ∘ LogRecord.toJson) = [] := by
    refine List.filter_eq_nil_iff.mpr fun r logged => ?_
    rw [Function.comp_apply, LogRecord.detail?_message_toJson, beq_iff_eq, Option.some.injEq]
    exact Settings.message_ne_of_load logged
  have own : (settings.parseLogged entity? text).1.filter
      ((fun v => v.detail? "message" == some "Rejected filter list") ∘ LogRecord.toJson) =
        (settings.parseLogged entity? text).1 := by
    refine List.filter_eq_self.mpr fun r logged => ?_
    obtain ⟨e, _, rfl⟩ := Settings.exists_of_mem_logs logged
    rw [Function.comp_apply, LogRecord.detail?_message_toJson, beq_iff_eq]
    rfl
  rw [others, own, List.nil_append]

end Session

/-- A run that parses a list, with its log in JSON and at the default level, logs one refusal if an item of
the list is refused, with its code, its index and its field. It logs none if the list is accepted, and none
if the list is refused before its items are looked at. -/
theorem refused_items_logged_once (zone? : String → Option Zone) (files : Files Id) (stdin : List UInt8)
    (env : Environment) (words : List String) (settings : Settings) (entity? : Option Entity) (text : String)
    (parses : Session.Parses zone? files stdin env words settings entity? text)
    (json : (Session.outcome zone? files stdin env words).logJson)
    (level : Session.logFilter (Id.run (EnvFile.load files env)) = Session.defaultLogFilter) :
    let rejections := (Session.outcome zone? files stdin env words).rejections
    (∀ filters, settings.parse entity? text = .ok filters → rejections = []) ∧
    (∀ items e, settings.intake.readList text = .ok items → settings.parse entity? text = .error e →
      ∃ v, rejections = [v] ∧ LogRecord.TellsRefusal v entity? e) ∧
    ∀ e, settings.intake.readList text = .error e →
      settings.parse entity? text = .error e ∧ rejections = [] := by
  intro rejections
  have read : rejections = (settings.parseLogged entity? text).1.map LogRecord.toJson :=
    Session.rejections_of_parses parses json level
  refine ⟨fun filters accepted => ?_, fun items e list refused => ?_, fun e whole => ?_⟩
  · rw [read, Settings.logs_of_accepted accepted, List.map_nil]
  · refine ⟨_, ?_, LogRecord.tellsRefusal_toJson entity? e⟩
    rw [read, Settings.logs_parseLogged list, refused]
    rfl
  · refine ⟨Settings.parse_of_whole whole, ?_⟩
    rw [read, Settings.parseLogged_of_whole whole, List.map_nil]

/-- An operator is unknown; the settings file, which has a member that nobody knows, is warned about too. -/
theorem refused_items_logged_once_of_unknown_operator :
    let files :=
      (FileTree.empty.put "/tracefilter.json" (.file (Text.octets "\x7b\"filter\":1\x7d"))).files none "/"
    let env : Environment := fun _ => none
    let words := ["parse", "--log-json", "-E", "traces"]
    let text := "[\x7b\"field\":\"name\",\"operator\":\"nope\"\x7d]"
    let o := Session.outcome Zone.named? files (Text.octets text) env words
    o.logLines.length = 2 ∧ ∃ v, o.rejections = [v] ∧
      LogRecord.TellsRefusal v (some .traces) ⟨.unknownOperator "nope", some 0, some "name"⟩ := by
  intro files env words text o
  let settings : Settings := ⟨.plain, .utc, .standard⟩
  let line : CommandLine :=
    ⟨.parse (some .traces) none, ⟨none, ⟨none, none, none, none⟩⟩, true⟩
  have read : CommandLine.read (Id.run (EnvFile.load files env)) words = .ok line := by
    subst files env words line
    decide +kernel
  have loaded : Settings.loaded Zone.named? files line.overrides = .ok settings := by
    subst files line settings
    decide +kernel
  have input : Id.run (Session.readInput files (pure (Text.octets text)) none) = .ok text :=
    Session.inputText_octets text
  have refused : settings.parse (some .traces) text =
      .error ⟨.unknownOperator "nope", some 0, some "name"⟩ := by
    subst settings text
    decide +kernel
  have list : ∃ items, settings.intake.readList text = .ok items := by
    cases list : settings.intake.readList text with
    | ok items => exact ⟨items, rfl⟩
    | error e =>
      cases refused.symm.trans (Settings.parse_of_whole list)
      cases Intake.index?_of_readList list
  have lines : o.logLines.length = 2 := by
    subst o files env words text
    decide +kernel
  have json : o.logJson := by
    subst o files env words text
    decide +kernel
  have level : Session.logFilter (Id.run (EnvFile.load files env)) = Session.defaultLogFilter := by
    subst files env
    decide +kernel
  obtain ⟨items, list⟩ := list
  exact ⟨lines, (refused_items_logged_once Zone.named? files (Text.octets text) env words settings
    (some .traces) text
    (.reached read rfl loaded input) json level).2.1 items _ list refused⟩

/-- A text that is no JSON is refused, and nothing is logged. -/
theorem bad_syntax_not_logged :
    let files := FileTree.empty.files none "/"
    let env : Environment := fun _ => none
    let words := ["parse", "--log-json", "-E", "traces"]
    let settings : Settings := ⟨.plain, .utc, .standard⟩
    let o := Session.outcome Zone.named? files (Text.octets "x") env words
    Session.Parses Zone.named? files (Text.octets "x") env words settings (some .traces) "x" ∧ o.logJson ∧
      Session.logFilter (Id.run (EnvFile.load files env)) = Session.defaultLogFilter ∧
      (∃ e, settings.parse (some .traces) "x" = .error e ∧ e.code = "INVALID_FILTER_JSON") ∧
      o.logs = [] ∧ o.rejections = [] := by
  intro files env words settings o
  let line : CommandLine :=
    ⟨.parse (some .traces) none, ⟨none, ⟨none, none, none, none⟩⟩, true⟩
  have read : CommandLine.read (Id.run (EnvFile.load files env)) words = .ok line := by
    subst files env words line
    decide +kernel
  have loaded : Settings.loaded Zone.named? files line.overrides = .ok settings := by
    subst files line settings
    decide +kernel
  have input : Id.run (Session.readInput files (pure (Text.octets "x")) none) = .ok "x" :=
    Session.inputText_octets "x"
  have refused : settings.parse (some .traces) "x" =
      .error (.ofFault (.invalidJson ⟨.grammar .expectedValue, some ⟨1, 1⟩⟩)) := by
    subst settings
    decide +kernel
  have json : o.logJson := by
    subst o files env words
    decide +kernel
  have level : Session.logFilter (Id.run (EnvFile.load files env)) = Session.defaultLogFilter := by
    subst files env
    decide +kernel
  have logs : o.logs = [] := by
    subst o files env words
    decide +kernel
  refine ⟨.reached read rfl loaded input, json, level, ⟨_, refused, rfl⟩, logs, ?_⟩
  rw [Outcome.rejections, Outcome.logValues, Outcome.logLines, logs]
  rfl

end TypedFilters
