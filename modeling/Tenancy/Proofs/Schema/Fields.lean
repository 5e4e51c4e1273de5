import Mathlib.Data.List.Nodup
import Tenancy.Proofs.Checked
import Tenancy.Schema.Basic

/-! Fields of a schema, which are told apart by their names and by their columns. -/
namespace Tenancy

/-- Where keys differ, an item is found by its key. -/
theorem find?_key_eq_some {α : Type} {key : α → String} {items : List α} (distinct : (items.map key).Nodup)
    {item : α} (member : item ∈ items) : items.find? (fun other => key other = key item) = some item := by
  cases found : items.find? (fun other => key other = key item) with
  | none => simpa using List.find?_eq_none.mp found item member
  | some other =>
    have same : key other = key item := by simpa using List.find?_some found
    rw [List.inj_on_of_nodup_map distinct (List.mem_of_find?_eq_some found) member same]

namespace Schema

variable {s : Schema} {f g : Field}

theorem eq_of_columnName_eq (first : f ∈ s.fields) (second : g ∈ s.fields)
    (same : f.columnName = g.columnName) : f = g :=
  List.inj_on_of_nodup_map s.sound.columns_differ first second same

theorem mem_of_fieldByColumn? {column : String} (found : s.fieldByColumn? column = some f) :
    f ∈ s.fields ∧ f.columnName = column :=
  ⟨List.mem_of_find?_eq_some found, by simpa using List.find?_some found⟩

theorem fieldByColumn?_of_mem (member : f ∈ s.fields) : s.fieldByColumn? f.columnName = some f :=
  find?_key_eq_some s.sound.columns_differ member

theorem exists_fieldByColumn?_iff {column : String} :
    (∃ f, s.fieldByColumn? column = some f) ↔ column ∈ s.columns := by
  constructor
  · rintro ⟨f, found⟩
    obtain ⟨member, rfl⟩ := mem_of_fieldByColumn? found
    exact List.mem_map_of_mem member
  · intro listed
    obtain ⟨f, member, rfl⟩ := List.mem_map.mp listed
    exact ⟨f, fieldByColumn?_of_mem member⟩

theorem field_eq_of_mem (member : f ∈ s.fields) : s.field f.name = .ok f := by
  have found : s.fields.find? (fun g => g.name = f.name) = some f := find?_key_eq_some s.sound.names_differ member
  rw [field, found]

theorem resolve_field (member : f ∈ s.fields) : (Selector.field f).resolve s = .ok f := by
  rw [Selector.resolve, field_eq_of_mem member, ok_bind, if_pos rfl, pure_eq_ok]

theorem mem_of_resolve {selector : Selector} (resolved : selector.resolve s = .ok f) : f ∈ s.fields := by
  have named {name : String} {f : Field} (found : s.field name = .ok f) : f ∈ s.fields := by
    rw [field] at found
    split at found
    · rename_i other same
      exact Except.ok.inj found ▸ List.mem_of_find?_eq_some same
    · cases found
  cases selector with
  | name text => exact named resolved
  | field g =>
    obtain ⟨found, first, rest⟩ := bind_eq_ok_iff.mp resolved
    split at rest
    · exact pure_eq_ok_iff.mp rest ▸ named first
    · cases rest

end Schema

end Tenancy
