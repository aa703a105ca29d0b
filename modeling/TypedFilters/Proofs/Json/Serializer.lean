import TypedFilters.Catalogue.Printer
import TypedFilters.Filter

/-!
# Data that are serialised without failure

The parts of a filter are texts and absent texts, and so are those of what is published of a field, lists and
truth values apart. None of them fails to be serialised, so neither does a list of filters
(`serializeItems_filters`) nor the catalogue of an entity (`serializeItems_published`).
-/

namespace TypedFilters

open Json

/-- Where no item fails, the sequence is serialised item by item. -/
theorem Json.serializeItems_eq_ok {α : Type} {item : α → Serialized} {form : α → Value}
    (each : ∀ x, item x = .ok (form x)) (xs : List α) :
    serializeItems item xs = .ok (.array (xs.map form)) := by
  have all : xs.mapM item = .ok (xs.map form) := by
    rw [funext each]
    exact List.mapM_pure
  rw [serializeItems, all]
  rfl

theorem Filter.serialize_eq (f : Filter) : f.serialize = .ok f.toJson := by
  rcases f with ⟨entity, field, op, _ | key, _ | value⟩ <;> rfl

/-- Filters never fail to be serialised. -/
theorem serializeItems_filters (filters : List Filter) :
    serializeItems Filter.serialize filters = .ok (.array (filters.map Filter.toJson)) :=
  serializeItems_eq_ok Filter.serialize_eq filters

theorem FieldInfo.serialize_eq (info : FieldInfo) : info.serialize = .ok info.toJson := by
  have choices : serializeItems (fun s => .ok (.string s)) info.choices =
      .ok (.array (info.choices.map .string)) :=
    serializeItems_eq_ok (fun _ => rfl) info.choices
  have operators : serializeItems (fun op : Operator => .ok (.string op.name)) info.operators =
      .ok (.array (info.operators.map fun op => .string op.name)) :=
    serializeItems_eq_ok (fun _ => rfl) info.operators
  rw [serialize, toJson]
  dsimp only
  rw [choices, operators]
  cases info.choices <;> rfl

/-- The catalogue never fails to be serialised. -/
theorem serializeItems_published (entity : Entity) :
    serializeItems FieldInfo.serialize entity.published = .ok entity.catalogue :=
  serializeItems_eq_ok FieldInfo.serialize_eq entity.published

end TypedFilters
