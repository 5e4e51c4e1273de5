import Tenancy.Catalog.Compile
import Tenancy.Proofs.Query.Operand

/-! Queries on the wire and back. A query is read as it was written just when its list of columns is a
plain one and the values in its conditions are plain values, which holds of every query that was read. -/
namespace Tenancy

namespace FieldList

/-- A list that is neither empty nor holds the star, which stands for all columns. -/
def IsWireNormal : FieldList → Prop
  | .columns names => names ≠ [] ∧ "*" ∉ names
  | _ => True

theorem ofNames_eq_ok_iff {names : List String} {fields : FieldList} :
    ofNames names = .ok fields ↔
      names = ["*"] ∧ fields = .all ∨ (names ≠ [] ∧ "*" ∉ names) ∧ fields = .columns names := by
  unfold ofNames
  split
  · simp
  · simp [eq_comm]
  · rename_i nonempty other
    have nonempty : names ≠ [] := nonempty
    have other : names ≠ ["*"] := other
    by_cases star : "*" ∈ names
    · simp [star, other]
    · simp [star, nonempty, other, eq_comm]

theorem isWireNormal_of_decode {json : Json} {fields : FieldList} (ok : decode json = .ok fields) :
    fields.IsWireNormal := by
  have listed {names : List String} (ok : ofNames names = .ok fields) : fields.IsWireNormal := by
    obtain ⟨_, rfl⟩ | ⟨plain, rfl⟩ := ofNames_eq_ok_iff.mp ok
    · trivial
    · exact plain
  cases json with
  | string name =>
    rw [decode] at ok
    split at ok
    · exact Except.ok.inj ok ▸ trivial
    · exact listed ok
  | array items =>
    rw [decode] at ok
    split at ok
    · exact listed ok
    · cases ok
  | _ => cases ok

end FieldList

namespace Query

/-- A query of plain columns and plain values. -/
def IsWireNormal : Query → Prop
  | .select node => node.fields.IsWireNormal ∧ ∀ c ∈ node.filter, c.IsWireNormal
  | .insert _ => True
  | .update node => ∀ change ∈ node.records, change.filter.IsWireNormal
  | .delete node => ∀ c ∈ node.filters, c.IsWireNormal

/-! What is written is read. -/

def Change.reread (change : Change) : Change := { change with filter := change.filter.reread }

structure Select.Draft.IsWireNormal (draft : Select.Draft) : Prop where
  fields : draft.fields.IsWireNormal
  filter : ∀ c ∈ draft.filter, c.IsWireNormal

theorem select_kept : Wire.Kept Select.wireMembers Select.Draft.IsWireNormal :=
  .cons (fun _ _ _ _ normal => ⟨normal.fields, normal.filter⟩) <|
  .cons (fun _ _ _ decoded normal => ⟨FieldList.isWireNormal_of_decode decoded, normal.filter⟩) <|
  .cons (fun _ _ _ decoded normal =>
    ⟨normal.fields, Wire.of_mem_nullable Condition.isWireNormal_of_decode decoded⟩) <|
  .cons (fun _ _ _ _ normal => ⟨normal.fields, normal.filter⟩) <|
  .cons (fun _ _ _ _ normal => ⟨normal.fields, normal.filter⟩) .nil

theorem isWireNormal_of_select_decode {json : Json} {node : Select} (ok : Select.decode json = .ok node) :
    (select node).IsWireNormal := by
  simp only [Select.decode, bind_eq_ok_iff, pure_eq_ok_iff] at ok
  obtain ⟨draft, read, table, _, rfl⟩ := ok
  have normal := select_kept.members read ⟨trivial, nofun⟩
  exact ⟨normal.fields, normal.filter⟩

theorem of_mem_batch {α : Type} {record : Wire.Decoder α} {P : α → Prop}
    (sound : ∀ json item, record json = .ok item → P item) {json : Json} {table : String} {records : List α}
    (ok : Batch.decode record json = .ok (table, records)) : ∀ item ∈ records, P item := by
  have kept : Wire.Kept (Batch.wireMembers record) fun batch =>
      ∀ items ∈ batch.records, ∀ item ∈ items, P item := by
    refine .cons (fun _ _ _ _ each => each) (.cons (fun _ _ _ decoded _ => ?_) .nil)
    rintro items ⟨⟩
    exact Wire.of_mem_list sound decoded
  simp only [Batch.decode, bind_eq_ok_iff, pure_eq_ok_iff, Wire.required_eq_ok_iff, Prod.mk.injEq] at ok
  obtain ⟨batch, read, _, _, _, present, _, rfl⟩ := ok
  exact kept.members read nofun records present

theorem isWireNormal_of_change_decode (json : Json) (change : Change) (ok : Change.decode json = .ok change) :
    change.filter.IsWireNormal := by
  have kept : Wire.Kept Change.wireMembers fun draft => ∀ c ∈ draft.filter, c.IsWireNormal := by
    refine .cons (fun _ _ _ decoded _ => ?_) (.cons (fun _ _ _ _ each => each) .nil)
    rintro c ⟨⟩
    exact Condition.isWireNormal_of_decode _ _ decoded
  simp only [Change.decode, bind_eq_ok_iff, pure_eq_ok_iff, Wire.required_eq_ok_iff] at ok
  obtain ⟨draft, read, filter, present, _, _, rfl⟩ := ok
  exact kept.members read nofun filter present

theorem isWireNormal_of_filterDecode (json : Json) (c : Condition) (ok : filterDecode json = .ok c) :
    c.IsWireNormal := by
  have kept : Wire.Kept [filterMember] fun filter => ∀ c ∈ filter, c.IsWireNormal := by
    refine .cons (fun _ _ _ decoded _ => ?_) .nil
    rintro c ⟨⟩
    exact Condition.isWireNormal_of_decode _ _ decoded
  simp only [filterDecode, bind_eq_ok_iff, Wire.required_eq_ok_iff] at ok
  obtain ⟨filter, read, present⟩ := ok
  exact kept.members read nofun c present

theorem isWireNormal_of_decode {json : Json} {q : Query} (ok : decode json = .ok q) : q.IsWireNormal := by
  rw [decode, bind_eq_ok_iff] at ok
  obtain ⟨⟨tag, rest⟩, _, ok⟩ := ok
  dsimp only at ok
  split at ok
  · obtain ⟨node, decoded, rfl⟩ := functor_map_eq_ok_iff.mp ok
    exact isWireNormal_of_select_decode decoded
  · obtain ⟨⟨table, records⟩, decoded, ok⟩ := bind_eq_ok_iff.mp ok
    obtain rfl := pure_eq_ok_iff.mp ok
    trivial
  · obtain ⟨⟨table, records⟩, decoded, ok⟩ := bind_eq_ok_iff.mp ok
    obtain rfl := pure_eq_ok_iff.mp ok
    exact of_mem_batch isWireNormal_of_change_decode decoded
  · obtain ⟨⟨table, filters⟩, decoded, ok⟩ := bind_eq_ok_iff.mp ok
    obtain rfl := pure_eq_ok_iff.mp ok
    exact of_mem_batch isWireNormal_of_filterDecode decoded
  · cases ok

end Query
end Tenancy
