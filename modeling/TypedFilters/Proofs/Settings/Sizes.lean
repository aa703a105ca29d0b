import TypedFilters.CommandLine
import TypedFilters.Proofs.Json.Numbers
import TypedFilters.Proofs.Settings.Layering

/-!
# Sizes fit a machine word

The limits of the settings are sizes that a user gave, on the command line, in an environment variable or in
a settings file. Wherever they come from, the reader of sizes has refused what does not fit a machine word
(`sizeOfWord_fits`, `typedSize_fits`). Every step of the command line and every member of a settings file keeps
this (`Given.Sized`, `Layer.Sized`), so it holds of the settings that take effect (`sized_of_loaded`).
-/

namespace TypedFilters

/-! ## What an answer has, if there is one -/

/-- The answer has a property, if there is one. -/
def Yields {ε α : Type} (answer : Except ε α) (P : α → Prop) : Prop :=
  ∀ x, answer = .ok x → P x

section Yields

variable {ε α β : Type} {answer : Except ε α} {P : α → Prop} {Q : β → Prop}

theorem yields_ok {x : α} (has : P x) : Yields (.ok x : Except ε α) P := by
  intro y eq
  cases eq
  exact has

theorem yields_error {e : ε} : Yields (.error e) P :=
  nofun

theorem Yields.map {f : α → β} (yields : Yields answer P) (each : ∀ x, P x → Q (f x)) :
    Yields (answer.map f) Q := by
  cases answer with
  | error e => exact yields_error
  | ok x => exact yields_ok (each x (yields x rfl))

theorem Yields.bind {f : α → Except ε β} (yields : Yields answer P) (each : ∀ x, P x → Yields (f x) Q) :
    Yields (answer >>= f) Q := by
  cases answer with
  | error e => exact yields_error
  | ok x => exact each x (yields x rfl)

theorem yields_true : Yields answer fun _ => True :=
  fun _ _ => trivial

theorem yields_bind {f : α → Except ε β} (each : ∀ x, Yields (f x) Q) : Yields (answer >>= f) Q :=
  yields_true.bind fun x _ => each x

/-- What each step keeps, a run over a list keeps. -/
theorem yields_foldlM {f : β → α → Except ε β} (keeps : ∀ state x, Q state → Yields (f state x) Q)
    {state : β} (start : Q state) (xs : List α) : Yields (xs.foldlM f state) Q := by
  induction xs generalizing state with
  | nil => exact yields_ok start
  | cons x xs ih =>
    rw [List.foldlM_cons]
    exact (keeps state x start).bind fun next has => ih has

end Yields

/-- The size fits a machine word, if it is given. -/
def Fits (size? : Option Nat) : Prop :=
  ∀ size ∈ size?, size ≤ maxSize

theorem fits_none : Fits none :=
  nofun

theorem Fits.or {upper lower : Option Nat} (fitsUpper : Fits upper) (fitsLower : Fits lower) :
    Fits (upper.or lower) := by
  cases upper with
  | none => exact fitsLower
  | some size => exact fitsUpper

/-! ## Settings files -/

/-- Whatever a reader reads has a property. -/
def ReadsOnly {α : Type} (reader : Json.Reader α) (P : α → Prop) : Prop :=
  ∀ cs, Yields (reader cs) fun read => P read.1

section Readers

variable {α σ : Type} {P : α → Prop} {Q : σ → Prop} {reader : Json.Reader α}

theorem yields_unexpected {expected : String} {cs : List Char} {R : α × List Char → Prop} :
    Yields (Json.unexpected expected cs) R :=
  fun _ read => absurd read Json.unexpected_ne_ok

/-- A size that is read from a text is an integer of up to 64 bits. -/
theorem typedSize_fits : ReadsOnly Json.typedSize (· ≤ maxSize) := by
  intro cs
  unfold Json.typedSize
  split
  · exact yields_error
  · split
    · split
      · exact yields_error
      · next n rest read =>
        have upper : (n : Int) < 2 ^ 64 := (Json.number_extends read).1.2
        apply yields_ok
        dsimp only [maxSize, Nat.pow_eq]
        omega
      · exact yields_error
      · exact yields_error
    · exact yields_unexpected

theorem readsOnly_optional (each : ReadsOnly reader P) :
    ReadsOnly (Json.optional reader) fun x? => ∀ x ∈ x?, P x := by
  intro cs
  unfold Json.optional
  split
  · exact yields_true.map fun _ _ => nofun
  · exact (each _).map fun _ has x given => Option.mem_some.mp given ▸ has

theorem readsOnly_requiredItem {expected : String} {position : Nat} (each : ReadsOnly reader P) :
    ReadsOnly (Json.requiredItem expected position reader) P := by
  intro cs
  have next : Yields (Json.itemOrEnd (position == 0) reader cs) fun read => ∀ x ∈ read.1, P x := by
    unfold Json.itemOrEnd
    split
    · exact yields_error
    · exact yields_ok nofun
    · exact (each _).map fun _ has x given => Option.mem_some.mp given ▸ has
  unfold Json.requiredItem
  split
  · exact yields_error
  · exact yields_error
  · next x rest read => exact yields_ok (next _ read x rfl)

theorem readsOnly_members {member : String → σ → Json.Reader σ}
    (keeps : ∀ name state, Q state → ReadsOnly (member name state) Q) {state : σ} (start : Q state)
    (bound : Nat) (first : Bool) : ReadsOnly (Json.members member bound state first) Q := by
  intro cs read taken
  refine Json.keeps_of_members ?_ start taken
  exact fun {name state cs _ _} has step => keeps name state has cs _ step

theorem yields_readOnce {name : String} {given? : Option (Option α)} {put : Option α → σ}
    (each : ReadsOnly reader P) (fits : ∀ x?, (∀ x ∈ x?, P x) → Q (put x?)) {cs : List Char} :
    Yields (SettingsFile.readOnce name given? reader put cs) fun read => Q read.1 := by
  unfold SettingsFile.readOnce
  split
  · exact yields_error
  · have value : Yields (Json.afterColon (Json.optional reader) cs) fun read => ∀ x ∈ read.1, P x := by
      unfold Json.afterColon
      split
      · exact yields_error
      · exact readsOnly_optional each _
    exact value.map fun _ has => fits _ has

end Readers

/-- The limits of the layer fit a machine word. -/
structure Layer.Sized (layer : Layer) : Prop where
  maxFilters : Fits layer.maxFilters?
  maxJsonBytes : Fits layer.maxJsonBytes?

theorem Layer.sized_empty : Layer.empty.Sized :=
  ⟨fits_none, fits_none⟩

namespace SettingsFile

/-- The limits that have been read fit a machine word. -/
def Draft.Sized (d : Draft) : Prop :=
  d.layer.Sized

/-- The limits of the section fit a machine word, if it has been read. -/
def Whole.Sized (w : Whole) : Prop :=
  ∀ layer ∈ w.given?.join, layer.Sized

/-- A member of the section changes one setting at most, and puts in a limit that fits. -/
theorem readsOnly_readMember (name : String) (d : Draft) (sized : d.Sized) :
    ReadsOnly (readMember name d) Draft.Sized := by
  intro cs
  have other : ∀ {α : Type} {reader : Json.Reader α}, ReadsOnly reader fun _ => True :=
    fun _ => yields_true
  unfold readMember
  split
  · refine yields_readOnce (Q := Draft.Sized) other fun _ _ => ?_
    exact ⟨sized.maxFilters, sized.maxJsonBytes⟩
  split
  · refine yields_readOnce (Q := Draft.Sized) other fun _ _ => ?_
    exact ⟨sized.maxFilters, sized.maxJsonBytes⟩
  split
  · refine yields_readOnce (Q := Draft.Sized) typedSize_fits fun _ fits => ?_
    exact ⟨fits, sized.maxJsonBytes⟩
  split
  · refine yields_readOnce (Q := Draft.Sized) typedSize_fits fun _ fits => ?_
    exact ⟨sized.maxFilters, fits⟩
  split
  · exact yields_error
  · exact yields_true.map fun _ _ => sized

theorem readsOnly_readItems : ReadsOnly readItems Layer.Sized := by
  intro cs
  have size {position : Nat} :
      ReadsOnly (Json.requiredItem arrayForm position (Json.optional Json.typedSize)) Fits :=
    readsOnly_requiredItem (readsOnly_optional typedSize_fits)
  unfold readItems
  refine yields_bind fun _ => yields_bind fun _ => ?_
  refine (size _).bind fun _ maxFilters => ?_
  refine (size _).bind fun _ maxJsonBytes => ?_
  exact yields_bind fun _ => yields_ok ⟨maxFilters, maxJsonBytes⟩

theorem readsOnly_readSection : ReadsOnly readSection Layer.Sized := by
  intro cs
  unfold readSection
  split
  · exact yields_error
  · exact readsOnly_readItems _
  · have start : Draft.Sized ⟨none, none, none, none⟩ := Layer.sized_empty
    exact (readsOnly_members readsOnly_readMember start _ _ _).map fun _ sized => sized
  · exact yields_unexpected

theorem readsOnly_readTopMember (name : String) (w : Whole) (sized : w.Sized) :
    ReadsOnly (readTopMember name w) Whole.Sized := by
  intro cs
  unfold readTopMember
  split
  · refine yields_readOnce (Q := Whole.Sized) readsOnly_readSection fun _ sized => ?_
    exact sized
  · exact yields_true.map fun _ _ => sized

theorem readsOnly_read : ReadsOnly read fun file => file.layer.Sized := by
  intro cs
  unfold read
  split
  · exact yields_error
  · have start : Whole.Sized ⟨none, []⟩ := fun _ given => nomatch given
    refine (readsOnly_members readsOnly_readTopMember start _ _ _).map fun taken sized => ?_
    rcases taken with ⟨⟨given?, unknown⟩, rest⟩
    dsimp only
    cases given : given?.join with
    | none => exact Layer.sized_empty
    | some layer => exact sized layer given
  · exact yields_unexpected

end SettingsFile

/-! ## The command line -/

/-- A size that is read from a word fits, since it did before each digit. -/
theorem sizeOfDigits_fits {n : Nat} (fits : n ≤ maxSize) (digits : List Char) :
    Yields (sizeOfDigits n digits) (· ≤ maxSize) := by
  induction digits generalizing n with
  | nil => exact yields_ok fits
  | cons c rest ih =>
    unfold sizeOfDigits
    split
    · exact yields_error
    · split
      · exact yields_error
      · next small => exact ih (Nat.not_lt.mp small)

theorem sizeOfWord_fits (word : String) : Yields (sizeOfWord word) (· ≤ maxSize) := by
  unfold sizeOfWord
  split
  · exact yields_error
  · exact yields_error
  · exact sizeOfDigits_fits (Nat.zero_le _) _
  · exact sizeOfDigits_fits (Nat.zero_le _) _

namespace Given

/-- The limits among the values fit a machine word. -/
structure Sized (g : Given) : Prop where
  maxFilters : Fits g.maxFilters?
  maxJsonBytes : Fits g.maxJsonBytes?

variable {g upper lower : Given}

theorem sized_nothing : nothing.Sized :=
  ⟨fits_none, fits_none⟩

theorem Sized.stackedOn (upperSized : upper.Sized) (lowerSized : lower.Sized) : (upper.stackedOn lower).Sized :=
  ⟨upperSized.maxFilters.or lowerSized.maxFilters, upperSized.maxJsonBytes.or lowerSized.maxJsonBytes⟩

theorem Sized.put (sized : g.Sized) (option : ValueOption) (word : String) :
    Yields (g.put option word) Sized := by
  unfold Given.put
  split
  · exact yields_error
  · have size : Yields (sizeOfWord word) fun size => Fits (some size) := by
      intro size read x given
      exact Option.mem_some.mp given ▸ sizeOfWord_fits word size read
    cases option with
    | maxFilters => exact size.map fun _ fits => ⟨fits, sized.maxJsonBytes⟩
    | maxJsonBytes => exact size.map fun _ fits => ⟨sized.maxFilters, fits⟩
    | timezone => exact yields_ok ⟨sized.maxFilters, sized.maxJsonBytes⟩
    | config | encoding | entity | input =>
      exact yields_true.map fun _ _ => ⟨sized.maxFilters, sized.maxJsonBytes⟩

end Given

theorem ofEnvironment_sized (env : Environment) (given : Given) :
    Yields (ofEnvironment env given) Given.Sized := by
  unfold ofEnvironment
  refine Yields.bind (yields_foldlM ?_ Given.sized_nothing _) fun values sized => ?_
  · intro values v sized
    split
    · exact yields_ok sized
    · split
      · exact sized.put _ _
      · exact yields_ok sized
  · split
    · exact yields_true.map fun _ _ => ⟨sized.maxFilters, sized.maxJsonBytes⟩
    · exact yields_ok sized

namespace CommandLine

section Sides

variable {s : Side} {verb? : Option Verb}

/-- What has been given on the side fits. -/
def Side.Sized (s : Side) : Prop :=
  s.given.Sized

theorem Side.sized_start : Side.start.Sized :=
  Given.sized_nothing

theorem Side.Sized.settle (sized : s.Sized) : Yields s.settle Side.Sized := by
  unfold Side.settle
  split
  · exact yields_ok sized
  · exact yields_error
  · exact (Given.Sized.put sized _ _).map fun _ given => given

theorem Side.Sized.attach (sized : s.Sized) (option : ValueOption) (word : String) :
    Yields (s.attach option word) Side.Sized := by
  refine sized.settle.bind fun s sized => ?_
  exact (Given.Sized.put sized option word).bind fun _ given => yields_ok given

theorem Side.Sized.await (sized : s.Sized) (option : ValueOption) : Yields (s.await option) Side.Sized :=
  sized.settle.bind fun _ sized => yields_ok sized

theorem Side.Sized.setLogJson (sized : s.Sized) : Yields s.setLogJson Side.Sized := by
  refine sized.settle.bind fun s sized => ?_
  split
  · exact yields_error
  · exact yields_ok ⟨sized.maxFilters, sized.maxJsonBytes⟩

theorem Side.Sized.long (sized : s.Sized) (name : String) (attached? : Option String) :
    Yields (s.long verb? name attached?) Side.Sized := by
  unfold Side.long
  split
  · exact yields_error
  · exact sized.attach _ _
  · exact sized.await _
  · exact yields_error
  · exact sized.setLogJson
  · exact yields_bind fun _ => yields_error
  · exact yields_bind fun _ => yields_error

theorem Side.Sized.short (sized : s.Sized) (letter : Char) (rest : List Char) :
    Yields (s.short verb? letter rest) Side.Sized := by
  unfold Side.short
  split
  · exact yields_error
  · exact sized.await _
  · exact sized.attach _ _
  · exact sized.attach _ _
  · exact sized.setLogJson
  · exact yields_bind fun _ => yields_error
  · exact yields_bind fun _ => yields_error

/-- One word keeps the sizes in their bounds. -/
theorem Side.Sized.take (sized : s.Sized) (word : String) : Yields (s.take verb? word) Side.Sized := by
  unfold Side.take
  split
  · exact yields_error
  · split
    · exact yields_ok sized
    · exact sized.long _ _
    · exact sized.short _ _
    · unfold Side.takeWord
      split
      · exact yields_ok sized
      · exact yields_error

theorem takeAll_sized (sized : s.Sized) (verb : Verb) (words : List String) :
    Yields (takeAll verb s words) Side.Sized := by
  induction words generalizing s with
  | nil => exact yields_ok sized
  | cons word rest ih =>
    unfold takeAll
    split
    · exact yields_error
    · next next taken => exact ih (sized.take word next taken)

theorem takeTop_sized (sized : s.Sized) (words : List String) :
    Yields (takeTop s words) fun top => top.1.Sized := by
  induction words generalizing s with
  | nil => exact yields_ok sized
  | cons word rest ih =>
    unfold takeTop
    split
    · exact yields_error
    · split
      · exact yields_ok sized
      · split
        · exact yields_error
        · next next taken => exact ih (sized.take word next taken)

theorem Side.Sized.finish (sized : s.Sized) (env : Environment) :
    Yields (s.finish env) fun given => given.1.Sized ∧ given.2.Sized := by
  refine sized.settle.bind fun s sized => ?_
  exact (ofEnvironment_sized env s.given).bind fun _ fromEnv => yields_ok ⟨sized, fromEnv⟩

end Sides

theorem readSubcommand_sized (env : Environment) (verb : Verb) (words : List String) :
    Yields (readSubcommand env verb words) fun given => given.1.Sized ∧ given.2.Sized := by
  refine (takeAll_sized Side.sized_start verb words).bind fun s sized => ?_
  refine (sized.finish env).bind fun given sized => ?_
  rcases given with ⟨given, fromEnv⟩
  dsimp only
  split
  · exact yields_error
  · exact yields_ok sized

/-- The limits that a command line gives, by options or by variables, fit a machine word. -/
theorem read_sized (env : Environment) (words : List String) :
    Yields (read env words) fun line => line.overrides.layer.Sized := by
  refine (takeTop_sized Side.sized_start words).bind fun top sized => ?_
  rcases top with ⟨s, _ | ⟨verb, rest⟩⟩
  · refine yields_bind fun given => ?_
    rcases given with ⟨given, fromEnv⟩
    dsimp only
    split
    · exact yields_error
    · exact yields_error
  · refine (readSubcommand_sized env verb rest).bind fun later laterSized => ?_
    refine (Side.Sized.finish sized env).bind fun earlier earlierSized => ?_
    have all := (laterSized.1.stackedOn earlierSized.1).stackedOn (laterSized.2.stackedOn earlierSized.2)
    exact yields_bind fun command => yields_ok ⟨all.maxFilters, all.maxJsonBytes⟩

end CommandLine

/-! ## Loaded settings -/

section Loaded

variable {zone? : String → Option Zone} {files : Files Id} {overrides : Overrides} {settings : Settings}
  {layer : Layer}

theorem sized_of_holds {entry : Entry} (held : entry.Holds layer) : layer.Sized := by
  cases held with
  | file read =>
    obtain ⟨rest, taken, _⟩ := Json.whole_eq_ok_iff.mp read
    exact SettingsFile.readsOnly_read _ _ taken

theorem sized_of_gives {entry : Entry} (gives : entry.Gives layer) : layer.Sized := by
  cases gives with
  | missing => exact Layer.sized_empty
  | present held => exact sized_of_holds held

theorem sized_of_profileGives (gives : ProfileGives files layer) : layer.Sized := by
  cases gives with
  | homeless => exact Layer.sized_empty
  | home _ gives => exact sized_of_gives gives

theorem sized_of_overlayGives {config? : Option String} (gives : OverlayGives files config? layer) :
    layer.Sized := by
  cases gives with
  | named held => exact sized_of_holds held
  | nearby gives => exact sized_of_gives gives

/-- The first limit that is given fits, and so does the default. -/
theorem firstGiven_le {standard : Nat} (fits : standard ≤ maxSize) {given : List (Option Nat)}
    (each : ∀ size? ∈ given, Fits size?) : firstGiven standard given ≤ maxSize := by
  induction given with
  | nil => exact fits
  | cons size? lower ih =>
    rw [List.forall_mem_cons] at each
    cases size? with
    | none => exact ih each.2
    | some size => exact each.1 size rfl

/-- The limits that take effect fit a machine word, if those on the command line do. -/
theorem sized_of_loaded (upper : overrides.layer.Sized)
    (loaded : Settings.loaded zone? files overrides = .ok settings) :
    settings.limits.maxFilters ≤ maxSize ∧ settings.limits.maxJsonBytes ≤ maxSize := by
  obtain ⟨profile, overlay, profileGives, overlayGives, effect⟩ := Settings.loaded_eq_ok_iff.mp loaded
  have each : ∀ layer ∈ [overrides.layer, overlay, profile], layer.Sized := by
    simp only [List.forall_mem_cons]
    exact ⟨upper, sized_of_overlayGives overlayGives, sized_of_profileGives profileGives,
      List.forall_mem_nil _⟩
  rw [effect.maxFilters, effect.maxJsonBytes]
  constructor
  · refine firstGiven_le (by decide) (List.forall_mem_map.mpr ?_)
    exact fun layer given => (each layer given).maxFilters
  · refine firstGiven_le (by decide) (List.forall_mem_map.mpr ?_)
    exact fun layer given => (each layer given).maxJsonBytes

end Loaded

end TypedFilters
