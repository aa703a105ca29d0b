import TypedFilters.Proofs.Catalogue
import TypedFilters.Proofs.Descriptor.Forms
import TypedFilters.Proofs.Intake.Agreement
import TypedFilters.Proofs.Json.NumberText
import TypedFilters.Proofs.Json.RoundTrip

/-!
# JSON numbers as values

A number field may be compared with a JSON number. Whatever number literal the reader of JSON admits, such a
comparison is accepted, and what is kept is the same number (`json_number_kept`): an integer of up to 64 bits
in the digits in which it is written, and any other number as a text that is read as the very double that the
literal was read as.
-/

namespace TypedFilters.Intake

open Text
open Json (Value stringText)
open Descriptor (given)

/-- The item compares a field with a number, by their names, and gives no key. -/
structure AsksNumber (entity : Entity) (field : Field) (op : Operator) (n : Json.Number)
    (item : Value) : Prop where
  field : ∃ name, given item "field" = some (.string name) ∧ entity.field? name = some field
  operator : ∃ name, given item "operator" = some (.string name) ∧ Operator.named? name = some op
  key : ∃ key?, Descriptor.GivesText (given item "key") key? ∧ nonBlank? key? = none
  value : given item "value" = some (.number n)

/-- The literal is an integer without fraction and exponent that fits 64 bits. Minus zero is none. -/
def IsInteger64 (literal : String) : Prop :=
  ∃ i : ℤ, -2 ^ 63 ≤ i ∧ i < 2 ^ 64 ∧ literal = toString i

/-- What is kept of a number literal: the literal itself if it is an integer that fits 64 bits, and else a
text that is read as the same double as the literal. -/
structure Keeps (literal : String) (n : Json.Number) (kept : String) : Prop where
  integer : IsInteger64 literal → kept = literal
  double : ¬ IsInteger64 literal →
    ∃ x, n = .float x ∧ (Decimal.read? kept.toList).bind Binary64.ofDecimal? = some x

/-- The text of a list of one descriptor without key, whose value is a literal, with a gap between its
parts. -/
def literalList (gap : List Char) (name operator literal : String) : String :=
  String.ofList <| gap.intercalate
    [['['], ['{'],
      stringText "field" ++ [':'], stringText name ++ [','],
      stringText "operator" ++ [':'], stringText operator ++ [','],
      stringText "value" ++ [':'], literal.toList,
      ['}'], [']']]

section Texts

variable {gap : List Char} {literal : String} {n : Json.Number}

/-- A value whose numbers are written as one literal. -/
def withLiteral (literal : String) : Value → List Char
  | .number _ => literal.toList
  | v => Json.compactText v

/-- The members of a descriptor without key that has a number for its value. -/
def numberMembers (name operator : String) (n : Json.Number) : List (String × Value) :=
  [("field", .string name), ("operator", .string operator), ("value", .number n)]

/-- Each member of the descriptor is read as it is meant. -/
theorem value_withLiteral (space : ∀ c ∈ gap, Json.isSpace c)
    (admitted : Json.number literal.toList = .ok (n, [])) {d : Nat} {name operator : String} :
    ∀ m ∈ numberMembers name operator n, ∀ rest, Json.EndsNumber rest →
      Json.value d (gap ++ (withLiteral literal m.2 ++ rest)) = .ok (m.2, rest) := by
  simp only [numberMembers, List.forall_mem_cons, Json.value_append space]
  refine ⟨fun _ _ => Json.value_string name, fun _ _ => Json.value_string operator, fun rest ends => ?_,
    List.forall_mem_nil _⟩
  have read := (Json.number_extends admitted).2 ends
  obtain ⟨c, cs, text, starts⟩ := Json.exists_eq_cons_of_number read
  rw [withLiteral, text]
  exact Json.value_of_number starts (text ▸ read)

/-- The characters of the descriptor. -/
def literalObject (gap : List Char) (name operator literal : String) (n : Json.Number) : List Char :=
  '{' :: (gap ++ (Json.memberText (withLiteral literal) gap ("field", .string name) ++
    Json.entriesText (Json.memberText (withLiteral literal) gap) gap gap '}'
      [("operator", .string operator), ("value", .number n)]))

theorem toList_literalList (gap : List Char) (name operator literal : String) (n : Json.Number) :
    (literalList gap name operator literal).toList =
      '[' :: (gap ++ (literalObject gap name operator literal n ++ (gap ++ [']']))) := by
  simp [literalList, literalObject, Json.entriesText, Json.memberText, withLiteral, Json.compactText,
    Json.scalarText, List.intercalate, List.intersperse]

theorem value_literalObject (space : ∀ c ∈ gap, Json.isSpace c)
    (admitted : Json.number literal.toList = .ok (n, [])) {d : Nat} {name operator : String}
    (rest : List Char) :
    Json.value (d + 1) (literalObject gap name operator literal n ++ rest) =
      .ok (.object (numberMembers name operator n), rest) := by
  have distinct : ((numberMembers name operator n).map Prod.fst).Nodup :=
    show ["field", "operator", "value"].Nodup by decide
  have written := @Json.value_object_written d rest _ gap gap gap space space _ _ distinct
    (value_withLiteral space admitted)
  simp only [literalObject, List.cons_append, List.append_assoc]
  exact written

/-- The list is read as one object with the number among its members. -/
theorem document_literalList (space : ∀ c ∈ gap, Json.isSpace c)
    (admitted : Json.number literal.toList = .ok (n, [])) (name operator : String) :
    Json.document (literalList gap name operator literal) =
      .ok (.array [.object (numberMembers name operator n)]) := by
  have starts : Json.StartsValue (literalObject gap name operator literal n) := ⟨'{', _, rfl, by decide⟩
  have array := @Json.value_array_written (Json.maxDepth - 1) []
    (fun _ => literalObject gap name operator literal n) gap gap space space
    (.object (numberMembers name operator n)) [] (List.forall_mem_singleton.mpr starts)
    (List.forall_mem_singleton.mpr fun rest _ => value_literalObject space admitted rest)
  refine Json.whole_eq_ok_iff.mpr ⟨[], ?_, rfl⟩
  rw [toList_literalList gap name operator literal n]
  rw [Json.entriesText, List.append_nil] at array
  exact array

end Texts

/-! ## What becomes of the number -/

section Numbers

variable {entity : Entity} {field : Field} {op : Operator} {literal : String} {n : Json.Number} {item : Value}

theorem not_isNullary_of_mem_number (permitted : op ∈ ValueKind.number.operators) : ¬ op.isNullary := by
  have none : ∀ op ∈ ValueKind.number.operators, ¬ op.isNullary := by decide
  exact none op permitted

/-- An item that compares a number field with a number gives a descriptor that passes all checks before its
value is decoded, and this value is the text of the number. -/
theorem exists_passes_of_asksNumber (numeric : field.kind = .number) (permitted : op ∈ field.operators)
    (read : item.IsRead) (inRange : n.InRange) (asks : AsksNumber entity field op n item) :
    ∃ d, Descriptor.ofValue item = .ok d ∧ Passes entity d op field none (some n.text) := by
  obtain ⟨name, hasField, found⟩ := asks.field
  obtain ⟨operator, hasOperator, named⟩ := asks.operator
  obtain ⟨key?, hasKey, unkeyed⟩ := asks.key
  have describes : Descriptor.Describes (given item) ⟨name, operator, key?, some n.text⟩ := by
    refine ⟨hasField, hasOperator, hasKey, ?_⟩
    rw [asks.value, ← Descriptor.compact_number]
    exact .number
  have key : Filter.checkKey field.kind key? = .ok none := by
    rw [checkKey_eq_ok_iff, numeric]
    exact ⟨unkeyed, rfl⟩
  have present : Filter.checkPresence op (some n.text) = .ok (some n.text) := by
    rw [Field.operators, numeric] at permitted
    exact checkPresence_eq_ok_some_iff.mpr
      ⟨not_isNullary_of_mem_number permitted, rfl, inRange.not_isBlank⟩
  exact ⟨_, (Descriptor.ofValue_eq_ok_iff read).mpr describes,
    ⟨named, found, List.contains_iff_mem.mpr permitted⟩, key, present⟩

/-- An item that compares a number field with a number gives the filter with the text of this number. -/
theorem resolveItem_of_asksNumber (numeric : field.kind = .number) (permitted : op ∈ field.operators)
    (read : item.IsRead) (inRange : n.InRange) (asks : AsksNumber entity field op n item) (zone : Zone)
    (limits : Limits) :
    (ofEncoding .plain zone limits).resolveItem entity item =
      .ok ⟨entity, field, op, none, some n.text⟩ := by
  obtain ⟨d, form, passes⟩ := exists_passes_of_asksNumber numeric permitted read inRange asks
  have format : field.kind.normalize field.choices n.text = .ok n.text := by
    rw [numeric]
    exact inRange.normalize_text field.choices
  have decodes : (ofEncoding .plain zone limits).decode field.kind n.text = .ok n.text := by
    rw [numeric]
    rfl
  rw [resolveItem, form]
  exact resolve_of_passes_some passes decodes format

/-- The text of the number that a literal is read as keeps the literal. -/
theorem keeps_text (admitted : Json.number literal.toList = .ok (n, [])) : Keeps literal n n.text := by
  constructor
  · rintro ⟨i, lower, upper, rfl⟩
    have read := @Json.number_integer [] i lower upper nofun
    rw [List.append_nil, admitted] at read
    cases read
    rfl
  · intro other
    cases n with
    | integer i =>
      have inRange := (Json.number_extends admitted).1
      have text := Json.eq_toString_of_number admitted
      rw [List.append_nil, String.toList_inj] at text
      exact absurd ⟨i, inRange.1, inRange.2, text⟩ other
    | float x => exact ⟨x, rfl, Binary64.ofDecimal?_read?_text (Json.number_extends admitted).1⟩

end Numbers

/-- A comparison of a number field with a JSON number is accepted whatever the number is, however the list is
written, if the limits admit one item and the size of the text. What is kept is the integer as it is written
if it fits 64 bits, and else a text of the same double. -/
theorem json_number_kept {entity : Entity} {field : Field} {op : Operator} (numeric : field.kind = .number)
    (permitted : op ∈ field.operators) {literal : String} {n : Json.Number}
    (admitted : Json.number literal.toList = .ok (n, [])) (zone : Zone) {limits : Limits}
    (one : 1 ≤ limits.maxFilters) :
    Keeps literal n n.text ∧
      (∀ text item, text.utf8ByteSize ≤ limits.maxJsonBytes → Json.document text = .ok (.array [item]) →
        AsksNumber entity field op n item →
          (ofEncoding .plain zone limits).parse entity text =
            .ok [⟨entity, field, op, none, some n.text⟩]) ∧
      ∀ gap name operator, (∀ c ∈ gap, Json.isSpace c) → entity.field? name = some field →
        Operator.named? operator = some op →
        (literalList gap name operator literal).utf8ByteSize ≤ limits.maxJsonBytes →
          (ofEncoding .plain zone limits).parse entity (literalList gap name operator literal) =
            .ok [⟨entity, field, op, none, some n.text⟩] := by
  have inRange := (Json.number_extends admitted).1
  have parsed : ∀ text item, text.utf8ByteSize ≤ limits.maxJsonBytes →
      Json.document text = .ok (.array [item]) → AsksNumber entity field op n item →
        (ofEncoding .plain zone limits).parse entity text =
          .ok [⟨entity, field, op, none, some n.text⟩] := by
    intro text item size array asks
    have read := (Json.isRead_of_document array).item item List.mem_cons_self
    rw [parse_eq_ok_iff, readList_eq_checkCount size array]
    exact ⟨[item], checkCount_eq_ok_iff.mpr ⟨one, rfl⟩,
      .cons (resolveItem_of_asksNumber numeric permitted read inRange asks zone limits) .nil⟩
  refine ⟨keeps_text admitted, parsed, ?_⟩
  intro gap name operator space found named size
  have asks : AsksNumber entity field op n (.object (numberMembers name operator n)) := {
    field := ⟨name, rfl, found⟩
    operator := ⟨operator, rfl, named⟩
    key := ⟨none, .absent, rfl⟩
    value := rfl }
  exact parsed _ _ size (document_literalList space admitted name operator) asks

/-- The least double, written with more digits than it needs. -/
theorem json_number_kept_of_least_double :
    let field : Field := ⟨"duration", .number, []⟩
    let text := "[\x7b\"field\":\"duration\",\"operator\":\">\",\"value\":4.94e-324\x7d]"
    field.kind = .number ∧ Operator.greater ∈ field.operators ∧
      Json.number "4.94e-324".toList = .ok (.float ⟨false, 1⟩, []) ∧
      literalList [] "duration" ">" "4.94e-324" = text ∧
      Keeps "4.94e-324" (.float ⟨false, 1⟩) "5e-324" ∧
      (ofEncoding .plain ⟨"UTC", 0, []⟩ ⟨1, 64⟩).parse .traces text =
        .ok [⟨.traces, field, .greater, none, some "5e-324"⟩] := by
  intro field text
  have numeric : field.kind = .number := rfl
  have permitted : Operator.greater ∈ field.operators := by decide
  have admitted : Json.number "4.94e-324".toList = .ok (.float ⟨false, 1⟩, []) := by decide +kernel
  have shown : (Json.Number.float ⟨false, 1⟩).text = "5e-324" := by decide +kernel
  have same : literalList [] "duration" ">" "4.94e-324" = text := by decide +kernel
  have kept := @json_number_kept .traces field .greater numeric permitted "4.94e-324" _ admitted
    ⟨"UTC", 0, []⟩ ⟨1, 64⟩ (Nat.le_refl 1)
  obtain ⟨keeps, _, listed⟩ := kept
  have found : Entity.traces.field? "duration" = some field := by decide +kernel
  have named : Operator.named? ">" = some .greater := by decide +kernel
  have size : text.utf8ByteSize ≤ 64 := by decide +kernel
  have parsed := listed [] "duration" ">" (List.forall_mem_nil _) found named (same ▸ size)
  rw [same, shown] at parsed
  rw [shown] at keeps
  exact ⟨numeric, permitted, admitted, same, keeps, parsed⟩

end TypedFilters.Intake
