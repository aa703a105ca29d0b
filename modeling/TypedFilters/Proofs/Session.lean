import TypedFilters.Files.Tree
import TypedFilters.Proofs.Catalogue
import TypedFilters.Proofs.Intake.Batch
import TypedFilters.Proofs.Json.RoundTrip
import TypedFilters.Proofs.Json.Serializer
import TypedFilters.Proofs.Settings.Sizes
import TypedFilters.Session

/-!
# Refusals are reported alike

A list that is refused is reported by the one report of its refusal (`Settings.render_eq_error_iff`), and
since filters never fail to be serialised there is no report of an internal error. The report has two texts:
the text of a response, and what the program prints. Both are read back as its body, whatever texts the list
brings into it, because its names are distinct and its index fits a machine word (`readable_body`): the
number of items is limited, and the limits of loaded settings fit. The body is an object that tells of the
refusal and of nothing else (`Report.Tells`). `refusals_reported_alike` says so of settings that are given,
and of runs of the program that load them, with the exit status.
-/

namespace TypedFilters

/-! ## Bodies of reports -/

namespace Report

/-- The names that the report of a refusal has room for. -/
def memberNames : List String :=
  ["error", "code", "message", "index", "field"]

/-- The value is an object with the code and the message of a refusal, with its index and its field as far
as they are known, and with nothing else. -/
structure Tells (v : Json.Value) (e : FilterError) : Prop where
  names : ∃ ms, v = .object ms ∧ (ms.map Prod.fst).Nodup ∧ ∀ m ∈ ms, m.1 ∈ memberNames
  error : v.member? "error" = some (.string "bad_request")
  code : v.member? "code" = some (.string e.code)
  message : v.member? "message" = some (.string e.fault.message)
  index : v.member? "index" = e.index?.map fun i => .number (.integer i)
  field : v.member? "field" = e.field?.map .string

theorem names_optionalMember {α : Type} (name : String) (form : α → Json.Value) (x? : Option α) :
    ((optionalMember name form x?).map Prod.fst).Sublist [name] := by
  cases x? with
  | none => exact List.nil_sublist _
  | some x => exact List.Sublist.refl _

/-- The names of a report are some of those that it has room for, in their order. -/
theorem exists_members (e : FilterError) : ∃ ms, (ofError e).body = .object ms ∧
    (ms.map Prod.fst).Sublist memberNames := by
  refine ⟨_, rfl, ?_⟩
  rw [List.map_append, List.map_append]
  exact ((List.Sublist.refl _).append (names_optionalMember "index" _ _)).append
    (names_optionalMember "field" _ _)

theorem nodup_memberNames : memberNames.Nodup := by
  decide

theorem tells_body (e : FilterError) : Tells (ofError e).body e where
  names := by
    obtain ⟨ms, body, names⟩ := exists_members e
    refine ⟨ms, body, names.nodup nodup_memberNames, ?_⟩
    exact fun m member => names.subset (List.mem_map_of_mem member)
  error := rfl
  code := rfl
  message := rfl
  index := by rcases e with ⟨fault, _ | index, _ | field⟩ <;> rfl
  field := by rcases e with ⟨fault, _ | index, _ | field⟩ <;> rfl

/-- The body can be read back if the index fits a machine word. -/
theorem readable_body {e : FilterError} (small : ∀ index ∈ e.index?, index < 2 ^ 64) :
    Json.Readable Json.maxDepth (ofError e).body := by
  obtain ⟨ms, body, names⟩ := exists_members e
  have distinct := names.nodup nodup_memberNames
  cases body
  refine .object distinct ?_
  rcases e with ⟨fault, index?, field?⟩
  have index : ∀ m ∈ optionalMember "index" (fun i : Nat => Json.Value.number (.integer i)) index?,
      Json.Readable (Json.maxDepth - 1) m.2 := by
    cases index? with
    | none => exact List.forall_mem_nil _
    | some index =>
      have upper : index < 2 ^ 64 := small index rfl
      exact List.forall_mem_singleton.mpr (.integer (by omega) (by omega))
  have field : ∀ m ∈ optionalMember "field" Json.Value.string field?,
      Json.Readable (Json.maxDepth - 1) m.2 := by
    cases field? with
    | none => exact List.forall_mem_nil _
    | some field => exact List.forall_mem_singleton.mpr .string
  simp only [List.forall_mem_append, List.forall_mem_cons]
  exact ⟨⟨⟨.string, .string, .string, List.forall_mem_nil _⟩, index⟩, field⟩

end Report

/-! ## Indices of refusals -/

namespace Intake

section Indices

variable {intake : Intake} {entity : Entity} {text : String} {e : FilterError}

theorem index?_of_readList (refused : intake.readList text = .error e) : e.index? = none := by
  obtain ⟨fault, rfl, _⟩ := exists_of_readList_eq_error refused
  rfl

/-- An item is refused at its index, and there are no more items than the limit. -/
theorem index?_lt_of_items {one : Json.Value → Except FilterError Filter}
    (refused : (intake.readList text).bind (resolveAll one 0) = .error e) :
    ∀ index ∈ e.index?, index < intake.limits.maxFilters := by
  intro index given
  cases list : intake.readList text with
  | error e' =>
    rw [list] at refused
    cases refused
    rw [index?_of_readList list] at given
    cases given
  | ok items =>
    rw [list] at refused
    obtain ⟨front, item, back, alone, rfl, _, _, rfl⟩ := exists_of_resolveAll_eq_error refused
    have few := (readList_eq_ok_iff.mp list).2.2
    have place : 0 + front.length = index := Option.mem_some.mp given
    simp only [List.length_append, List.length_cons] at few
    omega

end Indices

end Intake

/-! ## Rendering -/

namespace Settings

variable {settings : Settings} {entity? : Option Entity} {text : String} {e : FilterError}

/-- Filters are always answered by their text. -/
theorem answer_eq (filters : List Filter) : answer filters = .ok (filtersText filters) := by
  rw [answer, serializeItems_filters, filtersText]

/-- The text of the filters or the report of their refusal is answered, and what the parsing logs is logged. -/
theorem renderLogged_eq (settings : Settings) (entity? : Option Entity) (text : String) :
    settings.renderLogged entity? text = ((settings.parseLogged entity? text).1,
      match settings.parse entity? text with
      | .ok filters => .ok (filtersText filters)
      | .error e => .error (.ofError e)) := by
  rw [renderLogged, parse]
  rcases settings.parseLogged entity? text with ⟨logs, e | filters⟩
  · rfl
  · exact congrArg (Prod.mk logs) (answer_eq filters)

theorem render_eq_ok_iff {output : String} : settings.render entity? text = .ok output ↔
    ∃ filters, settings.parse entity? text = .ok filters ∧ output = filtersText filters := by
  rw [render, renderLogged_eq]
  cases settings.parse entity? text with
  | error e => simp
  | ok filters => simp [eq_comm]

theorem render_eq_error_iff {report : Report} : settings.render entity? text = .error report ↔
    ∃ e, settings.parse entity? text = .error e ∧ report = .ofError e := by
  rw [render, renderLogged_eq]
  cases settings.parse entity? text with
  | error e => simp [eq_comm]
  | ok filters => simp

theorem index?_lt_of_parse (refused : settings.parse entity? text = .error e) :
    ∀ index ∈ e.index?, index < settings.limits.maxFilters := by
  cases entity? with
  | some entity => exact Intake.index?_lt_of_items ((Intake.parse_eq_bind _ _).symm.trans refused)
  | none => exact Intake.index?_lt_of_items ((Intake.parseTagged_eq_bind _).symm.trans refused)

end Settings

/-! ## Both texts of a report -/

/-- The response to a refusal and a text that is printed are read back as one object that tells of it. -/
def ToldAlike (e : FilterError) (printed : String) : Prop :=
  ∃ v, Report.Tells v e ∧ Json.document (Report.ofError e).responseText = .ok v ∧
    Json.document printed = .ok v

namespace Session

variable {settings : Settings} {entity? : Option Entity} {text : String} {e : FilterError}

theorem parseText_of_refused (refused : settings.parse entity? text = .error e) :
    parseText settings entity? text =
      ⟨Json.pretty (Report.ofError e).body ++ "\n", some "Filter list rejected (400 Bad Request)",
        (settings.parseLogged entity? text).1⟩ := by
  rw [parseText, Settings.renderLogged_eq, refused]
  exact congrArg (Result.mk _ _) (List.append_nil _)

theorem parseText_of_accepted {filters : List Filter} (accepted : settings.parse entity? text = .ok filters) :
    parseText settings entity? text =
      ⟨Settings.filtersText filters ++ "\n", none, (settings.parseLogged entity? text).1⟩ := by
  rw [parseText, Settings.renderLogged_eq, accepted]

/-- What is logged is what the parsing logs: a report adds nothing to it. -/
theorem logs_parseText : (parseText settings entity? text).logs = (settings.parseLogged entity? text).1 := by
  cases parsed : settings.parse entity? text with
  | error e => rw [parseText_of_refused parsed]
  | ok filters => rw [parseText_of_accepted parsed]

theorem toldAlike_of_refused (fits : settings.limits.maxFilters ≤ maxSize)
    (refused : settings.parse entity? text = .error e) :
    ToldAlike e (parseText settings entity? text).stdout := by
  have small : ∀ index ∈ e.index?, index < 2 ^ 64 := by
    intro index given
    have below := Settings.index?_lt_of_parse refused index given
    simp only [maxSize, Nat.pow_eq] at fits
    omega
  have readable := Report.readable_body small
  refine ⟨_, Report.tells_body e, Json.document_compact readable, ?_⟩
  rw [parseText_of_refused refused]
  exact Json.document_pretty_line readable

/-! ## Runs -/

section Runs

variable {zone? : String → Option Zone} {files : Files Id} {stdin : List UInt8} {env : Environment}
  {words : List String}

/-- A run gets as far as to parse a text, under settings that it has loaded. -/
inductive Parses (zone? : String → Option Zone) (files : Files Id) (stdin : List UInt8) (env : Environment)
    (words : List String) : Settings → Option Entity → String → Prop
  | reached {line : CommandLine} {settings : Settings} {entity? : Option Entity} {input? : Option String}
      {text : String} (read : CommandLine.read (Id.run (EnvFile.load files env)) words = .ok line)
      (command : line.command = .parse entity? input?)
      (loaded : Settings.loaded zone? files line.overrides = .ok settings)
      (input : Id.run (readInput files (pure stdin) input?) = .ok text) :
      Parses zone? files stdin env words settings entity? text

/-- The outcome of a run on files that stay as they are, with the zones that are known. -/
def outcome (zone? : String → Option Zone) (files : Files Id) (stdin : List UInt8) (env : Environment)
    (words : List String) : Outcome :=
  Id.run (run files (pure stdin) env words zone?)

theorem fits_of_parses (parses : Parses zone? files stdin env words settings entity? text) :
    settings.limits.maxFilters ≤ maxSize := by
  cases parses with
  | reached read _ loaded _ => exact (sized_of_loaded (CommandLine.read_sized _ _ _ read) loaded).1

/-- The octets of a text on the standard input are read as this text. -/
theorem inputText_octets (text : String) : inputText (Text.octets text) = .ok text := by
  rw [inputText, Text.ofOctets?_octets]

theorem outcome_of_read {line : CommandLine}
    (read : CommandLine.read (Id.run (EnvFile.load files env)) words = .ok line) :
    outcome zone? files stdin env words = conclude (Id.run (EnvFile.load files env)) line.logJson
      (Id.run (follow files (pure stdin) line zone?)) := by
  rw [outcome, run, Id.run_bind, read]
  rfl

/-- The check of the tables never keeps a command from being carried out. -/
theorem start_eq {m : Type → Type} [Monad m] (files : Files m) (stdin : m (List UInt8))
    (settings : Settings) (command : Command) :
    start files stdin settings command = carryOut files stdin settings command := by
  rw [start, catalogueFault?_eq_none]

/-- Once the settings are loaded, the command is carried out, with the warnings about the settings files in
front of its own. -/
theorem follow_of_loaded {line : CommandLine}
    (loaded : Settings.loaded zone? files line.overrides = .ok settings) :
    let r := Id.run (carryOut files (pure stdin) settings line.command)
    Id.run (follow files (pure stdin) line zone?) =
      { r with logs := (Id.run (Settings.load files line.overrides zone?)).1 ++ r.logs } := by
  rw [follow, Id.run_bind]
  unfold Settings.loaded at loaded
  generalize Id.run (Settings.load files line.overrides zone?) = load at loaded ⊢
  rcases load with ⟨warnings, _⟩
  cases loaded
  dsimp only
  rw [Id.run_bind, start_eq]
  rfl

/-- A run that parses a text leaves behind what the parsing does, after the warnings about the settings. -/
theorem outcome_eq_of_parses (parses : Parses zone? files stdin env words settings entity? text) :
    ∃ overrides logJson, outcome zone? files stdin env words =
      conclude (Id.run (EnvFile.load files env)) logJson { parseText settings entity? text with
        logs := (Id.run (Settings.load files overrides zone?)).1 ++
          (settings.parseLogged entity? text).1 } := by
  cases parses with
  | @reached line _ _ input? _ read command loaded input =>
    have carried : Id.run (carryOut files (pure stdin) settings line.command) =
        parseText settings entity? text := by
      rw [command, carryOut, Id.run_bind, input]
      rfl
    rw [outcome_of_read read, follow_of_loaded loaded, carried, logs_parseText]
    exact ⟨_, _, rfl⟩

/-- A run that parses a text prints what the parsing prints, and its status tells whether this failed. -/
theorem outcome_of_parses (parses : Parses zone? files stdin env words settings entity? text) :
    (outcome zone? files stdin env words).stdout = (parseText settings entity? text).stdout ∧
      (outcome zone? files stdin env words).exitStatus =
        if (parseText settings entity? text).error?.isSome then 1 else 0 := by
  obtain ⟨overrides, logJson, left⟩ := outcome_eq_of_parses parses
  rw [left]
  exact ⟨rfl, rfl⟩

end Runs

end Session

/-! ## The law of reports -/

/-- What settings answer to a text: a list of filters is rendered as its text, and what is refused as the
report of the refusal, with its status and in both texts. There are no other reports, and nothing is logged
when the report is sent as a response. -/
structure ReportLaw (settings : Settings) (entity? : Option Entity) (text : String) : Prop where
  accepted : ∀ output, settings.render entity? text = .ok output ↔
    ∃ filters, settings.parse entity? text = .ok filters ∧ output = Settings.filtersText filters
  refused : ∀ report, settings.render entity? text = .error report ↔
    ∃ e, settings.parse entity? text = .error e ∧ report = .ofError e
  status : ∀ report, settings.render entity? text = .error report → report.status = 400
  response : ∀ report, settings.render entity? text = .error report →
    report.respond = ([], ⟨400, "application/json", report.responseText⟩)
  told : ∀ e, settings.parse entity? text = .error e →
    ToldAlike e (Session.parseText settings entity? text).stdout

/-- What a run that parses a text leaves behind: the refusal in what it prints, and the status that tells
whether there was one. -/
structure RunLaw (outcome : Outcome) (parsed : Except FilterError (List Filter)) : Prop where
  told : ∀ e, parsed = .error e → ToldAlike e outcome.stdout
  accepted : outcome.exitStatus = 0 ↔ ∃ filters, parsed = .ok filters
  refused : outcome.exitStatus = 1 ↔ ∃ e, parsed = .error e

section Law

variable {settings : Settings} {entity? : Option Entity} {text : String}

theorem reportLaw_of_fits (fits : settings.limits.maxFilters ≤ maxSize) :
    ReportLaw settings entity? text where
  accepted _ := Settings.render_eq_ok_iff
  refused _ := Settings.render_eq_error_iff
  status report rendered := by
    obtain ⟨e, _, rfl⟩ := Settings.render_eq_error_iff.mp rendered
    rfl
  response report rendered := by
    obtain ⟨e, _, rfl⟩ := Settings.render_eq_error_iff.mp rendered
    rfl
  told _ refused := Session.toldAlike_of_refused fits refused

theorem runLaw_of_parses {zone? : String → Option Zone} {files : Files Id} {stdin : List UInt8}
    {env : Environment} {words : List String}
    (parses : Session.Parses zone? files stdin env words settings entity? text) :
    RunLaw (Session.outcome zone? files stdin env words) (settings.parse entity? text) := by
  obtain ⟨printed, status⟩ := Session.outcome_of_parses parses
  cases parsed : settings.parse entity? text with
  | error e =>
    rw [Session.parseText_of_refused parsed] at status
    rw [← parsed]
    refine ⟨fun e refused => ?_, ?_, ?_⟩
    · rw [printed]
      exact Session.toldAlike_of_refused (Session.fits_of_parses parses) refused
    · rw [status, parsed]
      exact iff_of_false nofun nofun
    · rw [status, parsed]
      exact iff_of_true rfl ⟨e, rfl⟩
  | ok filters =>
    rw [Session.parseText_of_accepted parsed] at status
    refine ⟨fun e refused => ?_, ?_, ?_⟩
    · cases refused
    · exact iff_of_true status ⟨filters, rfl⟩
    · rw [status]
      refine iff_of_false Nat.zero_ne_one fun refused => ?_
      rcases refused with ⟨e, refused⟩
      cases refused

end Law

/-- Under settings whose limit on filters fits a machine word, every refusal is reported with the status of a
bad request, and its response and what is printed are read back as one object that tells of the refusal,
whatever characters it brings along. Runs of the program load such settings, print this report, and end with
the status that tells whether there was a refusal. -/
theorem refusals_reported_alike (settings : Settings) (entity? : Option Entity) (text : String) :
    (settings.limits.maxFilters ≤ maxSize → ReportLaw settings entity? text) ∧
      ∀ zone? files stdin env words, Session.Parses zone? files stdin env words settings entity? text →
        ReportLaw settings entity? text ∧
          RunLaw (Session.outcome zone? files stdin env words) (settings.parse entity? text) := by
  refine ⟨reportLaw_of_fits, ?_⟩
  intro zone? files stdin env words parses
  exact ⟨reportLaw_of_fits (Session.fits_of_parses parses), runLaw_of_parses parses⟩

/-- The name of an unknown field has a quote, a control character and a letter that is not ASCII. -/
theorem refusals_reported_alike_of_unknown_field :
    let files := FileTree.empty.files none "/"
    let env : Environment := fun _ => none
    let words := ["parse", "--entity", "traces"]
    let text := "[\x7b\"field\":\"\\\"\\u0007é\",\"operator\":\"is_empty\"\x7d]"
    let e : FilterError := ⟨.unknownField "\"\x07é" .traces, some 0, some "\"\x07é"⟩
    (Session.outcome Zone.named? files (Text.octets text) env words).exitStatus = 1 ∧
      ToldAlike e (Session.outcome Zone.named? files (Text.octets text) env words).stdout := by
  intro files env words text e
  let settings : Settings := ⟨.plain, .utc, .standard⟩
  let line : CommandLine :=
    ⟨.parse (some .traces) none, ⟨none, ⟨none, none, none, none⟩⟩, false⟩
  have read : CommandLine.read (Id.run (EnvFile.load files env)) words = .ok line := by
    subst files env words line
    decide +kernel
  have loaded : Settings.loaded Zone.named? files line.overrides = .ok settings := by
    subst files line settings
    decide +kernel
  have input : Id.run (Session.readInput files (pure (Text.octets text)) none) = .ok text :=
    Session.inputText_octets text
  have parsed : settings.parse (some .traces) text = .error e := by
    subst settings text e
    decide +kernel
  have parses :
      Session.Parses Zone.named? files (Text.octets text) env words settings (some .traces) text :=
    .reached read rfl loaded input
  have law := ((refusals_reported_alike settings (some .traces) text).2 _ _ _ _ _ parses).2
  exact ⟨law.refused.mpr ⟨e, parsed⟩, law.told e parsed⟩

end TypedFilters
