import Tenancy.Proofs.Entity.Uncached

/-! Entities that come up in runs of calls. Reading one of them, as far as a batch reads its entities,
gives the answer that it has without its cache and leaves it as it was but for the cache. -/
namespace Tenancy.Entity

/-- Entities of some run of calls. -/
def Reachable (e : Entity) : Prop := ∃ calls name, (kind.run (fun _ => none) calls).2 name = some e

/-- Entities of the same row and the same written values. What they remember of the row may differ. -/
structure Alike (e e' : Entity) : Prop where
  schema : e'.schema = e.schema
  snapshot : e'.snapshot = e.snapshot
  dirty : e'.dirty = e.dirty
  staged : ∀ column ∈ e.dirty, (e'.cache.get? column).join = (e.cache.get? column).join
  dirtyRecord : e'.dirtyRecord = e.dirtyRecord
  record : e'.toRecord = e.toRecord

variable {e e' : Entity}

theorem alike_of_uncached_eq (same : e'.uncached = e.uncached) : e.Alike e' where
  schema := congrArg Uncached.schema same
  snapshot := congrArg Uncached.snapshot same
  dirty := by rw [dirty_eq, dirty_eq, same]
  staged := fun column written => by
    have dirty : e'.dirty = e.dirty := by rw [dirty_eq, dirty_eq, same]
    have staged := get?_uncached e' column
    rw [same, get?_uncached, if_pos written, if_pos (dirty ▸ written)] at staged
    exact (Option.some.inj staged).symm
  dirtyRecord := by rw [dirtyRecord_eq, dirtyRecord_eq, same]
  record := by rw [toRecord_eq, toRecord_eq, same]

theorem alike_of_map_uncached_eq {entities entities' : List Entity}
    (same : entities'.map uncached = entities.map uncached) : List.Forall₂ Alike entities entities' := by
  rw [← List.forall₂_eq_eq_eq, List.forall₂_map_left_iff, List.forall₂_map_right_iff] at same
  exact same.flip.imp fun _ _ => alike_of_uncached_eq

theorem Reachable.coherent (reachable : e.Reachable) : e.Coherent := by
  obtain ⟨calls, name, present⟩ := reachable
  have none : EntityKind.All Coherent fun _ => none := fun _ _ member => nomatch member
  exact keeps_coherent.run (fun call _ => call.uses_univ) none name e present

theorem Reachable.ask (reachable : e.Reachable) (question : Question) : (e.ask question).2.Reachable := by
  obtain ⟨calls, name, present⟩ := reachable
  refine ⟨calls ++ [.ask name question], name, ?_⟩
  rw [EntityKind.run_append, EntityKind.run_cons, EntityKind.step, present]
  exact Function.update_self ..

theorem Reachable.applyRow (reachable : e.Reachable) (row : Record) : (e.applyRow row).Reachable := by
  obtain ⟨calls, name, present⟩ := reachable
  refine ⟨calls ++ [.applyRow name row], name, ?_⟩
  rw [EntityKind.run_append, EntityKind.run_cons, EntityKind.step, present]
  exact Function.update_self ..

theorem Reachable.set (reachable : e.Reachable) {selector : Selector} {value : Value}
    (written : e.set selector value = .ok e') : e'.Reachable := by
  obtain ⟨calls, name, present⟩ := reachable
  have step : kind.set e selector value = .ok e' := written
  refine ⟨calls ++ [.set name selector value], name, ?_⟩
  rw [EntityKind.run_append, EntityKind.run_cons, EntityKind.step, present]
  dsimp only
  rw [step]
  exact Function.update_self ..

theorem reachable_ofRow (schema : Schema) (row : Record) : (ofRow schema row).Reachable :=
  ⟨[.load "" schema row], "", rfl⟩

/-- An entity that is loaded from a row, and then written to. -/
theorem reachable_of_written (row : Record) (field text : String)
    (written : (ofRow e.schema row).set (.name field) (.string text) = .ok e) : e.Reachable :=
  (reachable_ofRow e.schema row).set written

/-- An entity after it was only read. -/
structure Reread (e e' : Entity) : Prop where
  uncached_eq : e'.uncached = e.uncached
  reachable : e'.Reachable

/-- A reading of entities that answers as if they had no cache. -/
def IsReading {α : Type} (read : Entity → Checked α × Entity) (answer : Uncached → Checked α) : Prop :=
  ∀ e : Entity, e.Reachable → (read e).1 = answer e.uncached ∧ e.Reread (read e).2

theorem Reachable.reread_id? (reachable : e.Reachable) : e.Reread e.id?.2 :=
  ⟨reachable.coherent.id?.uncached_eq, reachable.ask .id⟩

theorem isReading_requireId : IsReading requireId Uncached.requireId := fun e reachable =>
  ⟨reachable.coherent.requireId, e.requireId_after ▸ reachable.reread_id?⟩

theorem isReading_insertRecord : IsReading insertRecord Uncached.insertRecord := fun e reachable =>
  ⟨reachable.coherent.insertRecord, e.insertRecord_after ▸ reachable.reread_id?⟩

theorem isReading_updateRecord : IsReading updateRecord Uncached.updateRecord := fun e reachable =>
  ⟨reachable.coherent.updateRecord, e.updateRecord_after ▸ reachable.reread_id?⟩

theorem isReading_deleteRecord : IsReading deleteRecord Uncached.deleteRecord := fun e reachable =>
  ⟨reachable.coherent.deleteRecord, e.deleteRecord_after ▸ reachable.reread_id?⟩

end Tenancy.Entity
