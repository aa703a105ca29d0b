import TypedFilters.Proofs.Filter.Numbers
import TypedFilters.Proofs.Intake.JsonNumbers
import TypedFilters.Proofs.Intake.Soundness
import TypedFilters.Proofs.Intake.Transparency

/-!
# JSON numbers in a form-encoded list

A JSON number is decoded like any other value, after it has been turned into text. Form decoding leaves this
text alone, except that it makes a space of a plus, and the numbers with a plus in their text are the doubles
from `10 ^ 16` on. So a list without such a number is taken in alike with and without form decoding, and a
number field that is compared with such a number is refused with form decoding only (`number_transport`).
-/

namespace TypedFilters.Intake

open Text
open Json (Value)
open Descriptor (given)

/-! ## The text that is decoded -/

/-- The text with a space for every plus. -/
def spaced (s : String) : String :=
  s.map fun c => if c = '+' then ' ' else c

section Spaced

variable {s : String}

theorem pieces_spaced {cs : List Char} (percent : '%' ∉ cs) :
    Form.Pieces (cs.map fun c => if c = '+' then ' ' else c) cs := by
  induction cs with
  | nil => exact .nil
  | cons c cs ih =>
    rw [List.mem_cons, not_or] at percent
    rw [List.map_cons]
    by_cases plus : c = '+'
    · rw [if_pos plus, plus]
      exact .cons .plus (ih percent.2)
    · rw [if_neg plus]
      exact .cons (.literal (Ne.symm percent.1) plus) (ih percent.2)

/-- A text without percent signs is form-decoded to the text with spaces. -/
theorem text_spaced (percent : '%' ∉ s.toList) : Encoding.url.text s = .ok (spaced s) := by
  have spells : Form.Spells (spaced s) s := by
    rw [Form.Spells, spaced, String.toList_map]
    exact pieces_spaced percent
  exact spells.text

theorem spaced_eq_self (plus : '+' ∉ s.toList) : spaced s = s := by
  have kept : ∀ c ∈ s.toList, (if c = '+' then ' ' else c) = id c := by
    intro c mem
    apply if_neg
    intro same
    exact plus (same ▸ mem)
  rw [← String.toList_inj, spaced, String.toList_map, List.map_congr_left kept, List.map_id]

end Spaced

section Numbers

variable {n : Json.Number}

theorem percent_not_mem_text (inRange : n.InRange) : '%' ∉ n.text.toList := by
  intro mem
  rcases inRange.mem_text mem with digit | point | letter | minus | ⟨plus, _⟩
  · cases digit
  · cases point
  · cases letter
  · cases minus
  · cases plus

/-- Form decoding leaves a number alone that is not large. -/
theorem text_of_not_isLarge (inRange : n.InRange) (small : ¬ n.IsLarge) :
    Encoding.url.text n.text = .ok n.text := by
  rw [text_spaced (percent_not_mem_text inRange), spaced_eq_self (mt inRange.plus_mem_text_iff.mp small)]

theorem head_text_ne_plus (inRange : n.InRange) (large : n.IsLarge) : ∀ c ∈ n.text.toList.head?, c ≠ '+' := by
  cases n with
  | integer => cases large
  | float x => exact Binary64.head_text_ne_plus inRange

theorem last_text_ne_plus (inRange : n.InRange) : ∀ c ∈ n.text.toList.getLast?, c ≠ '+' := by
  obtain ⟨x, spells, _⟩ := (isFiniteNumber_iff_spells _).mp inRange.isFiniteNumber
  rintro c last rfl
  rcases spells.last _ last with digit | point
  · cases digit
  · cases point

/-- The space that form decoding makes of a plus stands neither in front nor behind. -/
theorem trim_spaced (inRange : n.InRange) (large : n.IsLarge) : trim (spaced n.text) = spaced n.text := by
  have kept : ∀ c ∈ n.text.toList, c ≠ '+' → ¬ isBlankChar (if c = '+' then ' ' else c) := by
    intro c mem other
    rw [if_neg other]
    exact inRange.not_isBlankChar c mem
  have trimmed : IsTrimmed (spaced n.text) := by
    constructor
    · rw [spaced, String.toList_map, List.head?_map, Option.forall_mem_map]
      exact fun c first => kept c (List.mem_of_mem_head? first) (head_text_ne_plus inRange large c first)
    · rw [spaced, String.toList_map, List.getLast?_map, Option.forall_mem_map]
      exact fun c last => kept c (List.mem_of_getLast? last) (last_text_ne_plus inRange c last)
  exact trimmed.trim_eq

/-- A text with a space in it is no number. -/
theorem not_isFiniteNumber_spaced (inRange : n.InRange) (large : n.IsLarge) :
    ¬ isFiniteNumber (spaced n.text) := by
  intro finite
  obtain ⟨x, spells, _⟩ := (isFiniteNumber_iff_spells _).mp finite
  apply spells.space_not_mem
  rw [spaced, String.toList_map]
  exact List.mem_map.mpr ⟨'+', inRange.plus_mem_text_iff.mpr large, rfl⟩

/-- As a value of a number field, what form decoding makes of a large number is refused. -/
theorem normalize_spaced (inRange : n.InRange) (large : n.IsLarge) (choices : List String) :
    ValueKind.number.normalize choices (spaced n.text) = .error (.notNumber (spaced n.text)) := by
  have some : trim (spaced n.text) ≠ "" := by
    rw [trim_spaced inRange large, ne_eq, ← String.toList_eq_nil_iff, spaced, String.toList_map,
      List.map_eq_nil_iff, String.toList_eq_nil_iff]
    exact inRange.text_ne_empty
  have other : ¬ isFiniteNumber (trim (spaced n.text)) := by
    rw [trim_spaced inRange large]
    exact not_isFiniteNumber_spaced inRange large
  rw [ValueKind.normalize_eq_notNumber some other, trim_spaced inRange large]

end Numbers

/-! ## Lists with numbers for values -/

/-- The item gives no value, or a number that is not large. -/
def GivesSmallNumber (item : Value) : Prop :=
  ∀ v ∈ given item "value", v = .null ∨ ∃ n, v = .number n ∧ ¬ n.IsLarge

section Items

variable {entity : Entity} {zone : Zone} {limits : Limits} {item : Value}

/-- A value that is no large number is the same with and without form decoding. -/
theorem sameValue_of_givesSmallNumber {d : Descriptor} (read : item.IsRead) (small : GivesSmallNumber item)
    (describes : Descriptor.Describes (given item) d) :
    SameValue (ofEncoding .plain zone limits) (ofEncoding .url zone limits) d.value? d.value? := by
  have value := describes.value
  cases found : given item "value" with
  | none =>
    rw [found] at value
    rw [value.unique (.text .absent)]
    exact .inl ⟨rfl, rfl⟩
  | some v =>
    rw [found] at value
    rcases small v found with rfl | ⟨n, rfl, notLarge⟩
    · rw [value.unique (.text .null)]
      exact .inl ⟨rfl, rfl⟩
    · have inRange := (Descriptor.isRead_of_given read found).inRange
      rw [value.unique .number, Descriptor.compact_number]
      exact sameValue_of_text (.inr inRange.not_isBlank) (text_of_not_isLarge inRange notLarge)
        (iff_of_false inRange.not_isBlank inRange.text_ne_empty)

theorem resolveItem_url_eq (read : item.IsRead) (small : GivesSmallNumber item) :
    (ofEncoding .url zone limits).resolveItem entity item =
      (ofEncoding .plain zone limits).resolveItem entity item := by
  unfold resolveItem
  cases form : Descriptor.ofValue item with
  | error fault => rfl
  | ok d =>
    have describes := (Descriptor.ofValue_eq_ok_iff read).mp form
    exact resolve_eq_of_sameValue rfl rfl rfl (sameValue_of_givesSmallNumber read small describes)

/-- A list without large numbers is taken in alike with and without form decoding. -/
theorem parse_url_eq {text : String} (small : ∀ items, Json.document text = .ok (.array items) →
    ∀ item ∈ items, GivesSmallNumber item) :
    (ofEncoding .url zone limits).parse entity text = (ofEncoding .plain zone limits).parse entity text := by
  have sameList : (ofEncoding .url zone limits).readList text = (ofEncoding .plain zone limits).readList text :=
    rfl
  rw [parse_eq_bind, parse_eq_bind, sameList]
  cases list : (ofEncoding .plain zone limits).readList text with
  | error e => simp only [Except.bind]
  | ok items =>
    have each : ∀ item ∈ items, (ofEncoding .url zone limits).resolveItem entity item =
        (ofEncoding .plain zone limits).resolveItem entity item := by
      intro item mem
      have array := document_of_mem_readList list mem
      exact resolveItem_url_eq ((Json.isRead_of_document array).item item mem) (small items array item mem)
    simp only [Except.bind]
    exact resolveAll_eq_of_each (List.forall₂_same.mpr each) 0

/-- A large number is no value for a number field once it is form-decoded. -/
theorem resolveItem_url_of_isLarge {field : Field} {op : Operator} {n : Json.Number}
    (numeric : field.kind = .number) (permitted : op ∈ field.operators) (read : item.IsRead)
    (inRange : n.InRange) (large : n.IsLarge) (asks : AsksNumber entity field op n item) :
    (ofEncoding .url zone limits).resolveItem entity item =
      .error (.onField field.name (.invalidValue .number (.notNumber (spaced n.text)))) := by
  obtain ⟨d, form, passes⟩ := exists_passes_of_asksNumber numeric permitted read inRange asks
  have format : field.kind.normalize field.choices (spaced n.text) =
      .error (.notNumber (spaced n.text)) := by
    rw [numeric]
    exact normalize_spaced inRange large field.choices
  have decodes : (ofEncoding .url zone limits).decode field.kind n.text = .ok (spaced n.text) := by
    rw [decode_eq_ok_iff, numeric]
    exact ⟨_, text_spaced (percent_not_mem_text inRange), rfl⟩
  rw [resolveItem, form]
  dsimp only
  rw [resolve_of_passes_invalid passes decodes format, numeric]

end Items

/-- A list whose items give no values, or numbers that are integers or doubles below `10 ^ 16`, is taken in
alike with and without form decoding. A number field that is compared with a double from `10 ^ 16` on is
accepted without form decoding, and refused with it for the space that the plus in the text of this number
becomes. -/
theorem number_transport (entity : Entity) (zone : Zone) (limits : Limits) (text : String) :
    ((∀ items, Json.document text = .ok (.array items) → ∀ item ∈ items, GivesSmallNumber item) →
      (ofEncoding .url zone limits).parse entity text =
        (ofEncoding .plain zone limits).parse entity text) ∧
    ∀ item field op n, Json.document text = .ok (.array [item]) → AsksNumber entity field op n item →
      field.kind = .number → op ∈ field.operators → n.IsLarge →
      text.utf8ByteSize ≤ limits.maxJsonBytes → 1 ≤ limits.maxFilters →
        (ofEncoding .plain zone limits).parse entity text =
            .ok [⟨entity, field, op, none, some n.text⟩] ∧
          (ofEncoding .url zone limits).parse entity text =
            .error ⟨.invalidValue .number (.notNumber (spaced n.text)), some 0, some field.name⟩ := by
  refine ⟨parse_url_eq, ?_⟩
  intro item field op n array asks numeric permitted large size one
  have read := (Json.isRead_of_document array).item item List.mem_cons_self
  have inRange := (Descriptor.isRead_of_given read asks.value).inRange
  have counted (encoding : Encoding) :
      (ofEncoding encoding zone limits).readList text = .ok [item] := by
    rw [readList_eq_checkCount size array]
    exact checkCount_eq_ok_iff.mpr ⟨one, rfl⟩
  constructor
  · exact parse_eq_ok_iff.mpr ⟨[item], counted .plain,
      .cons (resolveItem_of_asksNumber numeric permitted read inRange asks zone limits) .nil⟩
  · have refused := @resolveItem_url_of_isLarge entity zone limits item field op n numeric permitted read
      inRange large asks
    rw [parse_eq_bind, counted .url]
    simp only [Except.bind, resolveAll, refused]
    rfl

/-- One and a half is taken in alike, and ten to the power of 21 is refused with form decoding. -/
theorem number_transport_of_durations :
    let field : Field := ⟨"duration", .number, []⟩
    let small := "[\x7b\"field\":\"duration\",\"operator\":\">\",\"value\":1.5\x7d]"
    let large := "[\x7b\"field\":\"duration\",\"operator\":\">\",\"value\":1e21\x7d]"
    let plain := ofEncoding .plain ⟨"UTC", 0, []⟩ .standard
    let url := ofEncoding .url ⟨"UTC", 0, []⟩ .standard
    (url.parse .traces small = plain.parse .traces small ∧
        plain.parse .traces small = .ok [⟨.traces, field, .greater, none, some "1.5"⟩]) ∧
      plain.parse .traces large = .ok [⟨.traces, field, .greater, none, some "1e+21"⟩] ∧
      url.parse .traces large =
        .error ⟨.invalidValue .number (.notNumber "1e 21"), some 0, some "duration"⟩ := by
  intro field small large plain url
  let half : Json.Number := .float ⟨false, 3 * 2 ^ 1073⟩
  let power : Json.Number := .float ⟨false, 10 ^ 21 * 2 ^ 1074⟩
  have halfRead : Json.number "1.5".toList = .ok (half, []) := by decide +kernel
  have powerRead : Json.number "1e21".toList = .ok (power, []) := by decide +kernel
  have smallText : literalList [] "duration" ">" "1.5" = small := by decide +kernel
  have largeText : literalList [] "duration" ">" "1e21" = large := by decide +kernel
  have array := document_literalList (List.forall_mem_nil _) halfRead "duration" ">"
  have array' := document_literalList (List.forall_mem_nil _) powerRead "duration" ">"
  rw [smallText] at array
  rw [largeText] at array'
  have shown : power.text = "1e+21" := by decide +kernel
  have spacedText : spaced power.text = "1e 21" := by decide +kernel
  have isLarge : power.IsLarge := show 10 ^ 16 * Binary64.one ≤ Binary64.units _ by decide +kernel
  have notLarge : ¬ half.IsLarge := show ¬ 10 ^ 16 * Binary64.one ≤ Binary64.units _ by decide +kernel
  have gives : ∀ items, Json.document small = .ok (.array items) →
      ∀ item ∈ items, GivesSmallNumber item := by
    intro items array''
    cases array.symm.trans array''
    rw [List.forall_mem_singleton]
    intro v value
    cases value
    exact .inr ⟨half, rfl, notLarge⟩
  have asks : AsksNumber .traces field .greater power (.object (numberMembers "duration" ">" power)) := {
    field := ⟨"duration", rfl, by decide +kernel⟩
    operator := ⟨">", rfl, by decide +kernel⟩
    key := ⟨none, .absent, rfl⟩
    value := rfl }
  have permitted : Operator.greater ∈ field.operators := by decide
  have size : large.utf8ByteSize ≤ Limits.standard.maxJsonBytes := by decide +kernel
  have one : 1 ≤ Limits.standard.maxFilters := by decide
  obtain ⟨same, _⟩ := number_transport .traces ⟨"UTC", 0, []⟩ .standard small
  obtain ⟨_, differs⟩ := number_transport .traces ⟨"UTC", 0, []⟩ .standard large
  have result := differs _ field .greater power array' asks rfl permitted isLarge size one
  rw [spacedText, shown] at result
  exact ⟨⟨same gives, by decide +kernel⟩, result⟩

/-- Without form decoding a list with ten to the power of 21 is accepted, and with it refused. -/
theorem large_number_in_form_encoded_list :
    let text := "[\x7b\"field\":\"duration\",\"operator\":\">\",\"value\":1e21\x7d]"
    let plain := (ofEncoding .plain ⟨"UTC", 0, []⟩ .standard).parse .traces text
    let url := (ofEncoding .url ⟨"UTC", 0, []⟩ .standard).parse .traces text
    plain = .ok [⟨.traces, ⟨"duration", .number, []⟩, .greater, none, some "1e+21"⟩] ∧
      url = .error ⟨.invalidValue .number (.notNumber "1e 21"), some 0, some "duration"⟩ ∧
      url ≠ plain := by
  decide +kernel

end TypedFilters.Intake
