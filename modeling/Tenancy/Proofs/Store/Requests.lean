import Tenancy.Proofs.Catalog.Whitelist
import Tenancy.Proofs.Store.Sending

/-! What a batch is to send. Each entity has a request of its own, or none where an update would change
nothing, and the statements of all requests are those to which the records of the batch compile as a
whole. -/
namespace Tenancy

open Sql

/-- The request of an entity that is named by its identifier, if its part of the batch is needed. -/
def changeRequest {α : Type} (part : Uncached → Checked α) (needed : α → Bool) (statement : α → Checked Statement)
    (u : Uncached) : Checked (Option Request) := do
  let id ← u.requireId
  let value ← part u
  if needed value then return some (.ofChange id (← statement value).sql)
  else return none

def hasUpdates (change : Query.Change) : Bool := !change.updates.isEmpty

namespace CatalogTable

def insertRequest (t : CatalogTable) (record : Record) : Checked (Option Request) :=
  (t.insertStatement record).map fun statement => some (.ofInsert t.name statement.sql)

def requestOf (t : CatalogTable) (idColumn : String) : Writing → Uncached → Checked (Option Request)
  | .insert => fun u => u.insertRecord >>= t.insertRequest
  | .update => changeRequest Uncached.updateRecord hasUpdates (t.updateStatement idColumn)
  | .delete => changeRequest Uncached.deleteRecord (fun _ => true) (t.deleteStatement idColumn)

end CatalogTable

/-- The requests of a batch that nothing is wrong with. -/
structure Tenant.Prepares (t : Tenant) (w : Writing) (entities : List Uncached) (requests : List (Option Request)) :
    Prop where
  requests : ∃ table, (∀ u ∈ entities, t.catalog.Lists u.schema.table table) ∧
    entities.mapM (table.requestOf t.idColumn w) = .ok requests
  distinct : w ≠ .insert → ∃ ids, entities.mapM Uncached.requireId = .ok ids ∧ ids.Nodup

/-! The requests of a list of entities, and the statements of their records. -/

variable {t : CatalogTable} {entities : List Uncached} {requests : List (Option Request)}

theorem CatalogTable.insertRequests_eq_ok_iff (idColumn : String) {records : List Record}
    (read : entities.mapM Uncached.insertRecord = .ok records) :
    entities.mapM (t.requestOf idColumn .insert) = .ok requests ↔
      ∃ statements, records.mapM t.insertStatement = .ok statements ∧
        requests = (statements.map Statement.sql).map fun sql => some (.ofInsert t.name sql) := by
  have opened : t.insertRequest = fun record => (t.insertStatement record).map _ := rfl
  rw [requestOf, mapM_bind_eq_ok_iff read, opened, mapM_map_eq_ok_iff]
  simp only [List.map_map, Function.comp_def]

theorem changeRequests_eq_ok_iff {α : Type} {part : Uncached → Checked α} (needed : α → Bool)
    {statement : α → Checked Statement} {ids : List RecordId} {parts : List α}
    (identified : entities.mapM Uncached.requireId = .ok ids) (read : entities.mapM part = .ok parts) :
    entities.mapM (changeRequest part needed statement) = .ok requests ↔
      ∃ statements, (parts.filter needed).mapM statement = .ok statements ∧
        requests = changeRequests (List.zipWith (fun id value => if needed value then some id else none) ids parts)
          (statements.map Statement.sql) := by
  induction entities generalizing ids parts requests with
  | nil =>
    rw [List.mapM_nil, pure_eq_ok_iff] at identified read
    subst identified read
    simp [pure_eq_ok_iff, changeRequests]
  | cons u rest ih =>
    simp only [List.mapM_cons, bind_eq_ok_iff, pure_eq_ok_iff] at identified read
    obtain ⟨id, first, ids, others, rfl⟩ := identified
    obtain ⟨value, own, parts, theirs, rfl⟩ := read
    have opened : changeRequest part needed statement u =
        if needed value then return some (.ofChange id (← statement value).sql) else return none := by
      rw [changeRequest, first, ok_bind, own, ok_bind]
    rw [List.mapM_cons, opened, List.zipWith_cons_cons, List.filter_cons]
    split
    · simp only [bind_eq_ok_iff, pure_eq_ok_iff, ih others theirs, List.mapM_cons]
      constructor
      · rintro ⟨_, ⟨s, compiled, rfl⟩, _, ⟨statements, more, rfl⟩, rfl⟩
        exact ⟨_, ⟨s, compiled, statements, more, rfl⟩, rfl⟩
      · rintro ⟨_, ⟨s, compiled, statements, more, rfl⟩, rfl⟩
        exact ⟨_, ⟨s, compiled, rfl⟩, _, ⟨statements, more, rfl⟩, rfl⟩
    · simp only [bind_eq_ok_iff, pure_eq_ok_iff, ih others theirs]
      constructor
      · rintro ⟨_, rfl, _, ⟨statements, more, rfl⟩, rfl⟩
        exact ⟨statements, more, rfl⟩
      · rintro ⟨statements, more, rfl⟩
        exact ⟨_, rfl, _, ⟨statements, more, rfl⟩, rfl⟩

theorem statements_inserts (table : String) (texts : List String) :
    Request.statements (texts.map fun sql => some (.ofInsert table sql)) = texts := by
  simp [Request.statements, Request.ofInsert]

/-- As many statements as entities need are those of the requests. -/
theorem statements_changes {α : Type} (needed : α → Bool) {ids : List RecordId} {parts : List α}
    {texts : List String} (lengths : ids.length = parts.length) (count : texts.length = (parts.filter needed).length) :
    Request.statements
      (changeRequests (List.zipWith (fun id value => if needed value then some id else none) ids parts) texts) =
      texts := by
  induction parts generalizing ids texts with
  | nil =>
    obtain rfl := List.eq_nil_of_length_eq_zero lengths
    obtain rfl := List.eq_nil_of_length_eq_zero count
    rfl
  | cons value parts ih =>
    obtain ⟨id, ids, rfl⟩ := List.exists_cons_of_length_eq_add_one lengths
    have others : ids.length = parts.length := Nat.succ.inj lengths
    rw [List.zipWith_cons_cons]
    rw [List.filter_cons] at count
    split at count
    · rename_i need
      obtain ⟨sql, texts, rfl⟩ := List.exists_cons_of_length_eq_add_one count
      rw [if_pos need, changeRequests, Request.statements_some, ih others (Nat.succ.inj count)]
      rfl
    · rename_i idle
      rw [if_neg idle, changeRequests, Request.statements_none, ih others count]

end Tenancy
