import Mathlib.Data.List.Nodup
import Tenancy.Entity.Basic

/-! Columns of an entity, in the order in which they were written, and maps from them. -/
namespace Tenancy

namespace OrderedMap

variable {α β : Type}

theorem get?_insert (m : OrderedMap α) (key other : String) (value : α) :
    (m.insert key value).get? other = if other = key then some value else m.get? other := by
  split
  · rename_i same
    rw [same, get?_insert_self]
  · rename_i different
    exact get?_insert_ne m different value

/-- Writing what a key holds already changes nothing. -/
theorem insert_eq_self {m : OrderedMap α} {key : String} {value : α} (present : m.get? key = some value) :
    m.insert key value = m := by
  obtain ⟨entries⟩ := m
  have kept : put key value entries = entries := by
    induction entries with
    | nil => cases present
    | cons entry rest ih =>
      obtain ⟨first, old⟩ := entry
      by_cases same : first = key <;> simp_all [get?, find?, put]
  exact congrArg mk kept

theorem keys_insert (m : OrderedMap α) (key : String) (value : α) :
    (m.insert key value).keys = Entity.addColumn m.keys key := by
  obtain ⟨entries⟩ := m
  induction entries with
  | nil => rfl
  | cons entry rest ih =>
    obtain ⟨first, old⟩ := entry
    simp only [insert, put, keys, Entity.addColumn] at ih ⊢
    by_cases same : first = key
    · simp [same]
    · by_cases known : key ∈ rest.map (·.1) <;> simp_all [Ne.symm same]

theorem find?_map_value (f : α → β) (key : String) (entries : List (String × α)) :
    find? key (entries.map fun entry => (entry.1, f entry.2)) = (find? key entries).map f := by
  induction entries with
  | nil => rfl
  | cons entry rest ih =>
    by_cases same : entry.1 = key <;> simp [find?, same, ih]

theorem find?_map_keys (key : String) (f : String → α) (keys : List String) :
    find? key (keys.map fun k => (k, f k)) = if key ∈ keys then some (f key) else none := by
  induction keys with
  | nil => rfl
  | cons k rest ih =>
    rw [List.map_cons, find?, ih]
    by_cases same : k = key
    · simp [same]
    · simp [same, Ne.symm same]

theorem put_map_keys {keys : List String} (distinct : keys.Nodup) (f : String → α) (key : String) (value : α) :
    put key value (keys.map fun k => (k, f k)) =
      (Entity.addColumn keys key).map fun k => (k, if k = key then value else f k) := by
  induction keys with
  | nil => simp [put, Entity.addColumn]
  | cons k rest ih =>
    obtain ⟨fresh, distinct⟩ := List.nodup_cons.mp distinct
    by_cases same : k = key
    · subst same
      have others : rest.map (fun other => (other, if other = k then value else f other)) =
          rest.map fun other => (other, f other) :=
        List.map_congr_left fun other listed => by
          have different : other ≠ k := fun same => fresh (same ▸ listed)
          rw [if_neg different]
      simp [put, Entity.addColumn, others]
    · have added : Entity.addColumn (k :: rest) key = k :: Entity.addColumn rest key := by
        simp only [Entity.addColumn, List.mem_cons, Ne.symm same, false_or]
        split <;> rfl
      rw [List.map_cons, put, if_neg same, ih distinct, added, List.map_cons, if_neg same]

end OrderedMap

namespace Entity

theorem mem_addColumn {columns : List String} {column other : String} :
    other ∈ addColumn columns column ↔ other ∈ columns ∨ other = column := by
  rw [addColumn]
  split
  · rename_i known
    exact (or_iff_left_of_imp fun same => same ▸ known).symm
  · rw [List.mem_append, List.mem_singleton]

theorem nodup_addColumn {columns : List String} (distinct : columns.Nodup) (column : String) :
    (addColumn columns column).Nodup := by
  rw [addColumn]
  split
  · exact distinct
  · rename_i new
    exact List.nodup_append.mpr ⟨distinct, List.nodup_singleton column, fun a known b listed same =>
      new (List.mem_singleton.mp listed ▸ same ▸ known)⟩

end Entity
end Tenancy
