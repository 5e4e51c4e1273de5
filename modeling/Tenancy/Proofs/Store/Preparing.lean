import Tenancy.Proofs.Store.Requests

/-! What a tenant does with a batch before its first statement. The entities are only read, and each
check either finds a fault of the batch or contributes to its requests. In the end the batch is refused
for a fault, with nothing sent, or its requests are sent. -/
namespace Tenancy

namespace Entity

/-- Entities after they were only read. -/
structure RereadAll (entities entities' : List Entity) : Prop where
  uncached_eq : entities'.map uncached = entities.map uncached
  reachable : ∀ e ∈ entities', e.Reachable

variable {entities entities' : List Entity} {e e' : Entity}

theorem Reread.cons (first : e.Reread e') (rest : RereadAll entities entities') :
    RereadAll (e :: entities) (e' :: entities') :=
  ⟨congrArg₂ List.cons first.uncached_eq rest.uncached_eq, List.forall_mem_cons.mpr ⟨first.reachable, rest.reachable⟩⟩

end Entity

open Entity (RereadAll IsReading)

namespace Tenant

variable {α : Type} {read : Entity → Checked α × Entity} {entities : List Entity}

theorem collect_eq {answer : Uncached → Checked α} (reading : IsReading read answer)
    (reachable : ∀ e ∈ entities, e.Reachable) :
    (collect read entities).1 = (entities.map Entity.uncached).mapM answer ∧
      RereadAll entities (collect read entities).2 := by
  induction entities with
  | nil => exact ⟨rfl, rfl, reachable⟩
  | cons e rest ih =>
    obtain ⟨here, later⟩ := List.forall_mem_cons.mp reachable
    obtain ⟨same, reread⟩ := reading e here
    obtain ⟨values, others⟩ := ih later
    rw [List.map_cons, List.mapM_cons, ← same, ← values, collect]
    rcases taken : read e with ⟨result, e'⟩
    rw [taken] at reread
    cases result with
    | error error => exact ⟨rfl, reread.cons ⟨rfl, later⟩⟩
    | ok value =>
      rcases collected : collect read rest with ⟨results, rest'⟩
      rw [collected] at others
      cases results <;> exact ⟨rfl, reread.cons others⟩

theorem collectIds_reread {seen : List RecordId} (reachable : ∀ e ∈ entities, e.Reachable) :
    RereadAll entities (collectIds seen entities).2 := by
  induction entities generalizing seen with
  | nil => exact ⟨rfl, reachable⟩
  | cons e rest ih =>
    obtain ⟨here, later⟩ := List.forall_mem_cons.mp reachable
    obtain ⟨_, reread⟩ := Entity.isReading_requireId e here
    rw [collectIds]
    rcases taken : e.requireId with ⟨result, e'⟩
    rw [taken] at reread
    cases result with
    | error error => exact reread.cons ⟨rfl, later⟩
    | ok id =>
      dsimp only
      split
      · exact reread.cons ⟨rfl, later⟩
      · have others : RereadAll rest (collectIds (id :: seen) rest).2 := ih later
        rcases collected : collectIds (id :: seen) rest with ⟨results, rest'⟩
        rw [collected] at others
        cases results <;> exact reread.cons others

theorem collectIds_cons (seen : List RecordId) (e : Entity) (rest : List Entity) :
    (collectIds seen (e :: rest)).1 = e.requireId.1 >>= fun id =>
      if id ∈ seen then refuse .duplicateRecord (.recordTwice id)
      else (collectIds (id :: seen) rest).1.map (id :: ·) := by
  rw [collectIds]
  rcases e.requireId with ⟨error | id, e'⟩
  · rfl
  · rw [ok_bind]
    dsimp only
    split
    · rfl
    · rcases collectIds (id :: seen) rest with ⟨error | ids, rest'⟩ <;> rfl

/-- The identifiers of a batch are collected just when every entity has one and none is repeated. -/
theorem collectIds_eq_ok_iff {seen ids : List RecordId} (reachable : ∀ e ∈ entities, e.Reachable) :
    (collectIds seen entities).1 = .ok ids ↔
      (entities.map Entity.uncached).mapM Uncached.requireId = .ok ids ∧ ids.Nodup ∧ ∀ id ∈ ids, id ∉ seen := by
  induction entities generalizing seen ids with
  | nil =>
    rw [List.map_nil, List.mapM_nil, pure_eq_ok_iff]
    constructor
    · rintro ⟨⟩
      simp
    · rintro ⟨rfl, _⟩
      rfl
  | cons e rest ih =>
    obtain ⟨here, later⟩ := List.forall_mem_cons.mp reachable
    obtain ⟨same, _⟩ := Entity.isReading_requireId e here
    rw [List.map_cons, List.mapM_cons, ← same, collectIds_cons]
    cases e.requireId.1 with
    | error error => simp [error_bind]
    | ok id =>
      simp only [ok_bind, bind_eq_ok_iff, pure_eq_ok_iff]
      by_cases known : id ∈ seen
      · rw [if_pos known]
        simp only [refuse, reduceCtorEq, false_iff]
        rintro ⟨⟨ids, _, rfl⟩, _, fresh⟩
        exact fresh id List.mem_cons_self known
      · rw [if_neg known, map_eq_ok_iff]
        simp only [ih later, List.mem_cons, not_or]
        constructor
        · rintro ⟨ids, ⟨read, distinct, fresh⟩, rfl⟩
          exact ⟨⟨ids, read, rfl⟩, List.nodup_cons.mpr ⟨fun member => (fresh id member).1 rfl, distinct⟩,
            List.forall_mem_cons.mpr ⟨known, fun other member => (fresh other member).2⟩⟩
        · rintro ⟨⟨ids, read, rfl⟩, distinct, fresh⟩
          obtain ⟨first, distinct⟩ := List.nodup_cons.mp distinct
          exact ⟨ids, ⟨read, distinct, fun other member =>
            ⟨fun same => first (same ▸ member), fresh other (List.mem_cons_of_mem _ member)⟩⟩, rfl⟩

/-- A batch is of one table, or two of its entities are not. -/
theorem batchTable_cases (entities : List Entity) :
    (entities = [] ∧ batchTable entities = .ok none) ∨
    (∃ e ∈ entities, ∃ e' ∈ entities, e.schema.table ≠ e'.schema.table ∧
      ∃ error, batchTable entities = .error error) ∨
    ∃ first ∈ entities, (∀ e ∈ entities, e.schema.table = first.schema.table) ∧
      batchTable entities = .ok (some first.schema.table) := by
  cases entities with
  | nil => exact .inl ⟨rfl, rfl⟩
  | cons first rest =>
    right
    rw [batchTable]
    cases found : rest.find? fun e => e.schema.table ≠ first.schema.table with
    | some other =>
      have different : other.schema.table ≠ first.schema.table := by simpa using List.find?_some found
      exact .inl ⟨first, List.mem_cons_self, other, List.mem_cons_of_mem _ (List.mem_of_find?_eq_some found),
        different.symm, _, rfl⟩
    | none =>
      refine .inr ⟨first, List.mem_cons_self, List.forall_mem_cons.mpr ⟨rfl, ?_⟩, rfl⟩
      simpa using List.find?_eq_none.mp found

end Tenant
end Tenancy
