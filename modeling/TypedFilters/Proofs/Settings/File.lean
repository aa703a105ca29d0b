import Mathlib.Data.Option.Basic
import TypedFilters.Proofs.Json.Typed
import TypedFilters.Settings.File

/-!
# What settings files give

The settings stand in one section of a settings file. An object without that section is a settings file
too, and gives no settings (`SettingsFile.exists_of_no_section`): its reader goes through the members as
the reader of JSON values does, and takes each member but the section as a value. A settings file with a
section gives each setting that is a part of the section (`SettingsFile.givenBy_of_document`): readers of
settings and the reader of values agree on what they take, on members that nobody knows too.
-/

namespace TypedFilters

open Json

/-! ## Going through members -/

section Members

variable {cs rest : List Char} {first : Bool} {n : Nat}

/-- What has been read stays. -/
theorem Json.mem_of_members {α : Type} {item : Reader α} {read ms : List (String × α)}
    (taken : members (addMember item) n read first cs = .ok (ms, rest)) {m : String × α}
    (before : m ∈ read) : m ∈ ms := by
  refine keeps_of_members (P := fun ms => m ∈ ms) ?_ before taken
  intro name kept cs next rest before added
  obtain ⟨x, _, rfl⟩ := addMember_eq_ok_iff.mp added
  exact List.mem_cons_of_mem _ before

end Members

namespace SettingsFile

section Section

variable {cs rest : List Char} {first : Bool} {n : Nat}

/-- A member that is not the section is taken as a value. -/
theorem readTopMember_of_ne {name : String} (other : name ≠ "filters") (w : Whole) {v : Value}
    (read : afterColon (value (maxDepth - 1)) cs = .ok (v, rest)) :
    ∃ w', readTopMember name w cs = .ok (w', rest) ∧ w'.given? = w.given? := by
  rw [readTopMember, if_neg other, read]
  exact ⟨_, rfl, rfl⟩

/-- Where no member is the section, both readers go through the same members. -/
theorem exists_of_members {w : Whole} {read ms : List (String × Value)}
    (taken : members (addMember (value (maxDepth - 1))) n read first cs = .ok (ms, rest))
    (absent : ∀ m ∈ ms, m.1 ≠ "filters") :
    ∃ w', members readTopMember n w first cs = .ok (w', rest) ∧ w'.given? = w.given? := by
  induction n generalizing w read first cs with
  | zero => cases taken
  | succ n ih =>
    obtain ⟨after, ends, rfl, rfl⟩ | ⟨_, name, _, _, _, next, named, added, taken⟩ :=
      members_succ_eq_ok_iff.mp taken
    · exact ⟨w, members_succ_eq_ok_iff.mpr (.inl ⟨after, ends, rfl, rfl⟩), rfl⟩
    · obtain ⟨v, valued, rfl⟩ := addMember_eq_ok_iff.mp added
      have other := absent _ (mem_of_members taken List.mem_cons_self)
      obtain ⟨w', step, given⟩ := readTopMember_of_ne other w valued
      obtain ⟨final, later, same⟩ := ih taken
      exact ⟨final, members_succ_eq_ok_iff.mpr (.inr ⟨_, _, _, w', _, next, named, step, later⟩),
        same.trans given⟩

theorem read_of_brace {after : List Char} (brace : skipSpace cs = '{' :: after) :
    SettingsFile.read cs =
      (members readTopMember (after.length + 1) ⟨none, []⟩ true after).map fun taken =>
        (⟨taken.1.given?.join.getD .empty, taken.1.unknown.reverse⟩, taken.2) := by
  unfold SettingsFile.read
  rw [brace]
  rfl

/-- An object without the section is a settings file that gives nothing. -/
theorem exists_of_no_section {text : String} {kept : List (String × Value)}
    (document : Json.document text = .ok (.object kept))
    (absent : (Value.object kept).member? "filters" = none) :
    ∃ file, ofText text = .ok file ∧ file.layer = .empty := by
  obtain ⟨rest, read, blank⟩ := whole_eq_ok_iff.mp document
  obtain ⟨after, brace⟩ := @exists_brace_of_value _ rest (maxDepth - 1) kept read
  have inner := (@value_of_brace _ after (maxDepth - 1) brace).symm.trans read
  cases taken : members (addMember (value (maxDepth - 1))) (after.length + 1) [] true after with
  | error e =>
    rw [taken] at inner
    cases inner
  | ok step =>
    rcases step with ⟨ms, behind⟩
    rw [taken] at inner
    cases inner
    have others : ∀ m ∈ ms, m.1 ≠ "filters" := by
      intro m mem name
      rw [member?_collect_reverse, Value.member?, Option.map_eq_none_iff, List.find?_eq_none] at absent
      exact absent m mem (beq_iff_eq.mpr name)
    obtain ⟨w, through, given⟩ := @exists_of_members _ _ _ _ ⟨none, []⟩ _ _ taken others
    refine ⟨⟨w.given?.join.getD .empty, w.unknown.reverse⟩, whole_eq_ok_iff.mpr ⟨behind, ?_, blank⟩, ?_⟩
    · rw [read_of_brace brace, through]
      rfl
    · dsimp only
      rw [given]
      rfl

end Section

/-! ## What the section gives -/

/-- The names of the settings, in the order of an array of settings. -/
def settingNames : List String :=
  ["encoding", "timezone", "max_filters", "max_json_bytes"]

/-- What a section gives under a name: an object the member of this name, and an array the item in the place of
this name. -/
def part (section? : Option Value) (name : String) : Option Value :=
  match section? with
  | some (.object ms) => (Value.object ms).member? name
  | some (.array vs) => (Value.object (settingNames.zip vs)).member? name
  | _ => none

/-- The value is the name of the encoding, or an object with `null` under this name. -/
def IsEncoding (v : Value) (e : Encoding) : Prop :=
  v = .string e.name ∨ v = .object [(e.name, .null)]

/-- What a value that may be absent gives for a setting: nothing if it is absent or `null`. -/
inductive Gives {α : Type} (Stands : Value → α → Prop) : Option Value → Option α → Prop
  | absent : Gives Stands none none
  | present {v : Value} {x? : Option α} (told : Optionally Stands v x?) : Gives Stands (some v) x?

/-- The layer has what the section gives for each setting. -/
structure GivenBy (section? : Option Value) (layer : Layer) : Prop where
  encoding : Gives IsEncoding (part section? "encoding") layer.encoding?
  timezone : Gives (fun v s => v = .string s) (part section? "timezone") layer.timezone?
  maxFilters : Gives (fun v n => v = .number (.integer (n : Nat))) (part section? "max_filters")
    layer.maxFilters?
  maxJsonBytes : Gives (fun v n => v = .number (.integer (n : Nat))) (part section? "max_json_bytes")
    layer.maxJsonBytes?

section Encodings

variable {cs rest : List Char} {e : Encoding} {depth : Nat}

theorem string_of_readVariant (read : Encoding.readVariant cs = .ok (e, rest)) :
    string cs = .ok (e.name, rest) := by
  unfold Encoding.readVariant at read
  split at read
  · cases read
  · next s behind taken =>
    split at read
    · next e' named =>
      cases read
      have same := List.find?_some named
      rw [taken, beq_iff_eq.mp same]
    · cases read

theorem members_of_readMember {n : Nat} (read : Encoding.readMember cs = .ok (e, rest))
    (enough : cs.length ≤ n) :
    members (addMember (value depth)) (n + 1) [] true cs = .ok ([(e.name, .null)], rest) := by
  unfold Encoding.readMember at read
  split at read
  · cases read
  · cases read
  next named next =>
  split at read
  · cases read
  next e' behind variant =>
  split at read
  · cases read
  next last null =>
  split at read
  · cases read
  · next close =>
    cases read
    obtain ⟨n, rfl⟩ : ∃ left, n = left + 1 := by
      refine ⟨n - 1, ?_⟩
      cases cs with
      | nil => cases next
      | cons c cs => rw [List.length_cons] at enough; omega
    have valued : afterColon (value depth) behind = .ok (.null, last) := by
      unfold afterColon at null ⊢
      split at null
      · cases null
      · unfold typedNull at null
        split at null
        · cases null
        · next front =>
          obtain ⟨_, word, eq⟩ := map_eq_ok_iff.mp null
          cases eq
          exact value_of_null front word
        · exact absurd null unexpected_ne_ok
    have ended : nextName false last = .ok (.done ('}' :: rest)) := by
      simp only [nextName, close]
    refine members_succ_eq_ok_iff.mpr (.inr ⟨_, _, _, _, _, next, string_of_readVariant variant,
      addMember_eq_ok_iff.mpr ⟨_, valued, rfl⟩, ?_⟩)
    exact members_succ_eq_ok_iff.mpr (.inl ⟨_, ended, rfl, rfl⟩)
  · cases read

/-- An encoding is read from a value that is one. -/
theorem agrees_encoding : Agrees (depth + 1) Encoding.read IsEncoding := by
  refine agrees_of_value fun {cs rest e} read => ?_
  unfold Encoding.read at read
  split at read
  · next front =>
    rw [value_of_quote front, string_of_readVariant read]
    exact ⟨_, rfl, .inl rfl⟩
  · next front =>
    rw [value_of_brace front, members_of_readMember read (Nat.le_refl _)]
    exact ⟨_, rfl, .inr rfl⟩
  · cases read
  · cases read

end Encodings

section Sections

variable {α σ : Type} {Stands : Value → α → Prop} {reader : Reader α} {depth : Nat} {name : String}
  {cs rest rest' : List Char} {v : Value} {kept : List (String × Value)} {d d' : Draft} {layer : Layer}

/-- What has been put in for a setting is what has been read under its name. -/
abbrev Slot (Stands : Value → α → Prop) (kept : List (String × Value)) (name : String)
    (slot : Option (Option α)) : Prop :=
  Option.Rel (Optionally Stands) ((Value.object kept).member? name) slot

theorem Slot.gives {slot : Option (Option α)} (holds : Slot Stands kept name slot) :
    Gives Stands ((Value.object kept).member? name) slot.join := by
  unfold Slot at holds
  generalize (Value.object kept).member? name = v? at holds ⊢
  cases holds with
  | none => exact .absent
  | some told => exact .present told

theorem Slot.put {x? : Option α} (told : Optionally Stands v x?) :
    Slot Stands ((name, v) :: kept) name (some x?) := by
  rw [Slot, member?_cons, if_pos rfl]
  exact .some told

theorem Slot.keep {other : String} {slot : Option (Option α)} (holds : Slot Stands kept name slot)
    (ne : other ≠ name) : Slot Stands ((other, v) :: kept) name slot := by
  rwa [Slot, member?_cons, if_neg ne]

/-- The draft tells what has been read under the names of the settings. -/
structure Draft.Tells (d : Draft) (kept : List (String × Value)) : Prop where
  encoding : Slot IsEncoding kept "encoding" d.encoding?
  timezone : Slot (fun v s => v = .string s) kept "timezone" d.timezone?
  maxFilters : Slot (fun v n => v = .number (.integer (n : Nat))) kept "max_filters" d.maxFilters?
  maxJsonBytes : Slot (fun v n => v = .number (.integer (n : Nat))) kept "max_json_bytes" d.maxJsonBytes?

theorem told_of_readOnce (agrees : Agrees depth reader Stands) {given? : Option (Option α)}
    {put : Option α → σ} {state : σ} (read : readOnce name given? reader put cs = .ok (state, rest))
    (valued : afterColon (value depth) cs = .ok (v, rest')) :
    rest = rest' ∧ ∃ x?, state = put x? ∧ Optionally Stands v x? := by
  unfold readOnce at read
  split at read
  · cases read
  · obtain ⟨⟨x?, behind⟩, taken, eq⟩ := map_eq_ok_iff.mp read
    cases eq
    obtain ⟨same, told⟩ := agrees.optional.afterColon taken valued
    exact ⟨same, x?, rfl, told⟩

/-- A member of the section tells of one setting at most. -/
theorem Draft.Tells.readMember (tells : d.Tells kept) (read : readMember name d cs = .ok (d', rest))
    (valued : afterColon (value (depth + 1)) cs = .ok (v, rest')) :
    rest = rest' ∧ d'.Tells ((name, v) :: kept) := by
  unfold SettingsFile.readMember at read
  split at read
  · next eq =>
    obtain ⟨same, x?, rfl, told⟩ := told_of_readOnce agrees_encoding read valued
    subst eq
    exact ⟨same, .put told, tells.timezone.keep (by decide), tells.maxFilters.keep (by decide),
      tells.maxJsonBytes.keep (by decide)⟩
  split at read
  · next eq =>
    obtain ⟨same, x?, rfl, told⟩ := told_of_readOnce agrees_typedString read valued
    subst eq
    exact ⟨same, tells.encoding.keep (by decide), .put told, tells.maxFilters.keep (by decide),
      tells.maxJsonBytes.keep (by decide)⟩
  split at read
  · next eq =>
    obtain ⟨same, x?, rfl, told⟩ := told_of_readOnce agrees_typedSize read valued
    subst eq
    exact ⟨same, tells.encoding.keep (by decide), tells.timezone.keep (by decide), .put told,
      tells.maxJsonBytes.keep (by decide)⟩
  split at read
  · next eq =>
    obtain ⟨same, x?, rfl, told⟩ := told_of_readOnce agrees_typedSize read valued
    subst eq
    exact ⟨same, tells.encoding.keep (by decide), tells.timezone.keep (by decide),
      tells.maxFilters.keep (by decide), .put told⟩
  next encoding timezone maxFilters maxJsonBytes =>
  split at read
  · cases read
  · next after colons =>
    obtain ⟨behind, skipped, eq⟩ := map_eq_ok_iff.mp read
    cases eq
    exact ⟨eq_of_skipValue colons skipped valued, tells.encoding.keep encoding, tells.timezone.keep timezone,
      tells.maxFilters.keep maxFilters, tells.maxJsonBytes.keep maxJsonBytes⟩

theorem givenBy_of_readItems {n : Nat} {vs : List Value} (read : readItems cs = .ok (layer, rest))
    (taken : items (value (depth + 1)) n [] true cs = .ok (vs, rest')) :
    rest = rest' ∧ GivenBy (some (.array vs)) layer := by
  obtain ⟨⟨encoding?, _⟩, first, read⟩ := bind_eq_ok_iff.mp read
  obtain ⟨⟨timezone?, _⟩, second, read⟩ := bind_eq_ok_iff.mp read
  obtain ⟨⟨maxFilters?, _⟩, third, read⟩ := bind_eq_ok_iff.mp read
  obtain ⟨⟨maxJsonBytes?, _⟩, fourth, read⟩ := bind_eq_ok_iff.mp read
  obtain ⟨_, ended, eq⟩ := bind_eq_ok_iff.mp read
  cases eq
  obtain ⟨encoding, _, encodingTold, taken⟩ := agrees_encoding.optional.requiredItem first taken
  obtain ⟨timezone, _, timezoneTold, taken⟩ := agrees_typedString.optional.requiredItem second taken
  obtain ⟨maxFilters, _, maxFiltersTold, taken⟩ := agrees_typedSize.optional.requiredItem third taken
  obtain ⟨maxJsonBytes, _, maxJsonBytesTold, taken⟩ := agrees_typedSize.optional.requiredItem fourth taken
  obtain ⟨rfl, rfl⟩ := eq_of_endOfArray ended taken
  exact ⟨rfl, .present encodingTold, .present timezoneTold, .present maxFiltersTold,
    .present maxJsonBytesTold⟩

/-- What is read as a section is given by the value that it is. -/
theorem agrees_readSection : Agrees (depth + 2) readSection fun v layer => GivenBy (some v) layer := by
  intro cs rest rest' layer v read valued
  unfold readSection at read
  split at read
  · cases read
  · next after front =>
    rw [value_of_bracket front] at valued
    obtain ⟨⟨vs, behind⟩, taken, eq⟩ := map_eq_ok_iff.mp valued
    cases eq
    exact givenBy_of_readItems read taken
  · next after front =>
    rw [value_of_brace front] at valued
    obtain ⟨⟨ms, behind⟩, taken', eq⟩ := map_eq_ok_iff.mp valued
    cases eq
    obtain ⟨⟨d, last⟩, taken, eq⟩ := map_eq_ok_iff.mp read
    cases eq
    have start : Draft.Tells ⟨none, none, none, none⟩ [] := ⟨.none, .none, .none, .none⟩
    obtain ⟨same, tells⟩ := agree_of_members
      (fun tells read valued => Draft.Tells.readMember tells read valued) start taken taken'
    have given (name : String) : part (some (.object (collect ms.reverse))) name =
        (Value.object ms).member? name := member?_collect_reverse ms name
    refine ⟨same, ?_, ?_, ?_, ?_⟩
    · exact (given _).symm ▸ tells.encoding.gives
    · exact (given _).symm ▸ tells.timezone.gives
    · exact (given _).symm ▸ tells.maxFilters.gives
    · exact (given _).symm ▸ tells.maxJsonBytes.gives
  · exact absurd read unexpected_ne_ok

/-- The section that has been read gives what has been put in. -/
def Whole.Tells (w : Whole) (kept : List (String × Value)) : Prop :=
  Slot (fun v layer => GivenBy (some v) layer) kept "filters" w.given?

/-- A member of the file is the section, or else it is read as a value. -/
theorem Whole.Tells.readTopMember {w w' : Whole} (tells : w.Tells kept)
    (read : readTopMember name w cs = .ok (w', rest))
    (valued : afterColon (value (maxDepth - 1)) cs = .ok (v, rest')) :
    rest = rest' ∧ w'.Tells ((name, v) :: kept) := by
  unfold SettingsFile.readTopMember at read
  split at read
  · next eq =>
    obtain ⟨same, x?, rfl, told⟩ := told_of_readOnce agrees_readSection read valued
    subst eq
    exact ⟨same, .put told⟩
  · next other =>
    rw [valued] at read
    cases read
    exact ⟨rfl, Slot.keep tells other⟩

/-- A file that is an object gives what its section gives, and nothing if the section is `null`. -/
theorem givenBy_of_document {text : String} {file : SettingsFile} {members : List (String × Value)}
    (read : ofText text = .ok file) (document : Json.document text = .ok (.object members)) :
    GivenBy ((Value.object members).member? "filters") file.layer := by
  obtain ⟨rest, read, _⟩ := whole_eq_ok_iff.mp read
  obtain ⟨rest', valued, _⟩ := whole_eq_ok_iff.mp document
  obtain ⟨after, front⟩ := @exists_brace_of_value _ rest' (maxDepth - 1) members valued
  rw [read_of_brace front] at read
  have inner := (@value_of_brace _ after (maxDepth - 1) front).symm.trans valued
  obtain ⟨⟨ms, behind⟩, taken', eq⟩ := map_eq_ok_iff.mp inner
  cases eq
  obtain ⟨⟨w, last⟩, taken, eq⟩ := map_eq_ok_iff.mp read
  cases eq
  have start : Whole.Tells ⟨none, []⟩ [] := .none
  obtain ⟨_, told⟩ := agree_of_members
    (fun told read valued => Whole.Tells.readTopMember told read valued) start taken taken'
  dsimp only
  rw [member?_collect_reverse]
  unfold Whole.Tells Slot at told
  generalize (Value.object ms).member? "filters" = section? at told ⊢
  generalize w.given? = given? at told ⊢
  cases told with
  | none => exact ⟨.absent, .absent, .absent, .absent⟩
  | some told =>
    cases told with
    | null => exact ⟨.absent, .absent, .absent, .absent⟩
    | given told => exact told

end Sections

end SettingsFile

end TypedFilters
