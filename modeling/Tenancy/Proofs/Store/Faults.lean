import Tenancy.Proofs.Store.Preparing

/-! What can be wrong with a batch. Each check of a tenant that fails shows a fault of the batch, and a
batch that passes them all has no fault and is sent as its requests. -/
namespace Tenancy

open Sql
open Entity (RereadAll)

/-- The query that the records of a batch make; an update leaves out those that would change nothing. -/
def Writing.query (w : Writing) (table : String) (entities : List Entity) : Checked Query :=
  match w with
  | .insert => (entities.mapM fun e : Entity => e.insertRecord.1).map fun records => .insert ⟨table, records⟩
  | .update => (entities.mapM fun e : Entity => e.updateRecord.1).map fun changes =>
      .update ⟨table, changes.filter hasUpdates⟩
  | .delete => (entities.mapM fun e : Entity => e.deleteRecord.1).map fun filters => .delete ⟨table, filters⟩

namespace Tenant

def write (t : Tenant) : Writing → List Entity → Backend → BatchOutcome
  | .insert => t.insert
  | .update => t.update
  | .delete => t.delete

/-- What can be wrong with a batch. -/
inductive Faulty (t : Tenant) (entities : List Entity) : Writing → Prop
  | mixedTables {w : Writing} {e e' : Entity} (member : e ∈ entities) (member' : e' ∈ entities)
      (different : e.schema.table ≠ e'.schema.table) : t.Faulty entities w
  | unreadableId {w : Writing} {e : Entity} {error : DataError} (member : e ∈ entities)
      (read : e.id?.1 = .error error) : t.Faulty entities w
  | identified {e : Entity} {id : RecordId} (member : e ∈ entities) (read : e.id?.1 = .ok (some id)) :
      t.Faulty entities .insert
  | unidentified {w : Writing} {e : Entity} (change : w ≠ .insert) (member : e ∈ entities)
      (read : e.id?.1 = .ok none) : t.Faulty entities w
  | repeatedId {w : Writing} {i j : Nat} {e e' : Entity} {id : RecordId} (change : w ≠ .insert) (before : i < j)
      (first : entities[i]? = some e) (second : entities[j]? = some e') (read : e.id?.1 = .ok (some id))
      (read' : e'.id?.1 = .ok (some id)) : t.Faulty entities w
  | refused {w : Writing} {e : Entity} {query : Query} {error : DataError} (member : e ∈ entities)
      (records : w.query e.schema.table entities = .ok query) (compiled : t.compile query = .error error) :
      t.Faulty entities w

/-- A batch is refused for a fault with nothing sent, or its requests are sent. -/
def Settles (t : Tenant) (w : Writing) (entities : List Entity) : Prop :=
  (t.Faulty entities w ∧
    ∀ b, ∃ error, (t.write w entities b).sent = ⟨.error error, entities.map Entity.uncached, b⟩) ∨
  ∃ requests, t.Prepares w (entities.map Entity.uncached) requests ∧
    ∀ b, (t.write w entities b).sent = send w requests (entities.map Entity.uncached) b

variable {t : Tenant} {w : Writing} {entities : List Entity} {statements : List String}

/-! Faults by where they are found. -/

theorem faulty_of_insertRecord {u : Uncached} {error : DataError} (reachable : ∀ e ∈ entities, e.Reachable)
    (listed : u ∈ entities.map Entity.uncached) (failed : u.insertRecord = .error error) :
    t.Faulty entities .insert := by
  obtain ⟨e, member, rfl⟩ := List.mem_map.mp listed
  have read := (reachable e member).coherent.id?.result_eq
  rw [Uncached.insertRecord, ← read] at failed
  cases taken : e.id?.1 with
  | error error => exact .unreadableId member taken
  | ok id =>
    cases id with
    | some id => exact .identified member taken
    | none => rw [taken] at failed; cases failed

theorem faulty_of_requireId {u : Uncached} {error : DataError} (change : w ≠ .insert)
    (reachable : ∀ e ∈ entities, e.Reachable) (listed : u ∈ entities.map Entity.uncached)
    (failed : u.requireId = .error error) : t.Faulty entities w := by
  obtain ⟨e, member, rfl⟩ := List.mem_map.mp listed
  have read := (reachable e member).coherent.id?.result_eq
  rw [Uncached.requireId, ← read] at failed
  cases taken : e.id?.1 with
  | error error => exact .unreadableId member taken
  | ok id =>
    cases id with
    | some id => rw [taken] at failed; cases failed
    | none => exact .unidentified change member taken

theorem requireId_eq_ok_iff {u : Uncached} {id : RecordId} : u.requireId = .ok id ↔ u.id? = .ok (some id) := by
  rw [Uncached.requireId]
  rcases u.id? with error | _ | other
  · simp [error_bind]
  · simp [ok_bind, refuse]
  · simp [ok_bind, pure_eq_ok]

/-- The identifiers of a batch stand in the places of its entities. -/
theorem getElem?_identified {ids : List RecordId} (reachable : ∀ e ∈ entities, e.Reachable)
    (identified : (entities.map Entity.uncached).mapM Uncached.requireId = .ok ids) {n : Nat} {id : RecordId} :
    ids[n]? = some id ↔ ∃ e, entities[n]? = some e ∧ e.id?.1 = .ok (some id) := by
  have read {e : Entity} (there : entities[n]? = some e) : e.id?.1 = e.uncached.id? :=
    (reachable e (List.mem_of_getElem? there)).coherent.id?.result_eq
  obtain ⟨outside, absent⟩ | ⟨u, id', listed, found, required⟩ := getElem?_of_mapM identified n
  · rw [List.getElem?_map, Option.map_eq_none_iff] at outside
    simp [absent, outside]
  · rw [List.getElem?_map, Option.map_eq_some_iff] at listed
    obtain ⟨e, there, rfl⟩ := listed
    simp [found, there, read there, requireId_eq_ok_iff.mp required]

theorem faulty_of_repeated {ids : List RecordId} (change : w ≠ .insert) (reachable : ∀ e ∈ entities, e.Reachable)
    (identified : (entities.map Entity.uncached).mapM Uncached.requireId = .ok ids) (repeated : ¬ ids.Nodup) :
    t.Faulty entities w := by
  rw [List.nodup_iff_getElem?_ne_getElem?] at repeated
  push Not at repeated
  obtain ⟨i, j, before, bound, same⟩ := repeated
  have present := List.getElem?_eq_getElem bound
  obtain ⟨e, first, read⟩ := (getElem?_identified reachable identified).mp (same.trans present)
  obtain ⟨e', second, read'⟩ := (getElem?_identified reachable identified).mp present
  exact .repeatedId change before first second read read'

/-! What the query of a batch compiles to. -/

theorem compile_batch_iff {α : Type} {query : Query} {table : String} {items : List α}
    {statement : CatalogTable → α → Checked Statement}
    (shape : t.catalog.compile t.idColumn query = t.catalog.checkTable table >>= fun T => items.mapM (statement T)) :
    t.compile query = .ok statements ↔
      ∃ T, t.catalog.Lists table T ∧ ∃ compiled, items.mapM (statement T) = .ok compiled ∧
        statements = compiled.map Statement.sql := by
  simp only [compile, shape, bind_eq_ok_iff, checkTable_eq_ok_iff, pure_eq_ok_iff]
  constructor
  · rintro ⟨compiled, ⟨T, listed, checked⟩, rfl⟩
    exact ⟨T, listed, compiled, checked, rfl⟩
  · rintro ⟨T, listed, compiled, checked, rfl⟩
    exact ⟨compiled, ⟨T, listed, checked⟩, rfl⟩

theorem compile_insert_iff {table : String} {records : List Record} :
    t.compile (.insert ⟨table, records⟩) = .ok statements ↔
      ∃ T, t.catalog.Lists table T ∧ ∃ compiled, records.mapM T.insertStatement = .ok compiled ∧
        statements = compiled.map Statement.sql :=
  compile_batch_iff rfl

/-- Records of reachable entities are read as without their caches. -/
theorem mapM_read_eq {α : Type} {read : Entity → Checked α × Entity} {part : Uncached → Checked α}
    (reading : Entity.IsReading read part) (reachable : ∀ e ∈ entities, e.Reachable) :
    (entities.mapM fun e => (read e).1) = (entities.map Entity.uncached).mapM part := by
  induction entities with
  | nil => rfl
  | cons e rest ih =>
    obtain ⟨here, later⟩ := List.forall_mem_cons.mp reachable
    rw [List.map_cons, List.mapM_cons, List.mapM_cons, ih later, (reading e here).1]

/-- The identifiers of a batch are there and differ, or the batch is at fault. -/
theorem identified_or_faulty (change : w ≠ .insert) (reachable : ∀ e ∈ entities, e.Reachable) :
    (∃ error entities', collectIds [] entities = (.error error, entities') ∧ RereadAll entities entities' ∧
      t.Faulty entities w) ∨
    ∃ ids entities', collectIds [] entities = (.ok ids, entities') ∧ RereadAll entities entities' ∧
      (entities.map Entity.uncached).mapM Uncached.requireId = .ok ids ∧ ids.Nodup := by
  have reread : RereadAll entities (collectIds [] entities).2 := collectIds_reread reachable
  have identified {ids : List RecordId} : (collectIds [] entities).1 = .ok ids ↔ _ :=
    collectIds_eq_ok_iff reachable
  rcases collected : collectIds [] entities with ⟨error | ids, entities'⟩
  · rw [collected] at reread identified
    refine .inl ⟨error, entities', rfl, reread, ?_⟩
    cases read : (entities.map Entity.uncached).mapM Uncached.requireId with
    | error error =>
      obtain ⟨u, listed, failed⟩ := mem_of_mapM_eq_error read
      exact faulty_of_requireId change reachable listed failed
    | ok ids =>
      refine faulty_of_repeated change reachable read fun distinct => ?_
      have collected : (.error error : Checked (List RecordId)) = .ok ids :=
        identified.mpr ⟨read, distinct, fun _ _ => List.not_mem_nil⟩
      cases collected
  · rw [collected] at reread identified
    obtain ⟨read, distinct, _⟩ := identified.mp rfl
    exact .inr ⟨ids, entities', rfl, reread, read, distinct⟩

/-- Where all entities have identifiers, a part that asks for no more is read of each of them. -/
theorem collect_of_identified {α : Type} {read : Entity → Checked α × Entity} {part : Uncached → Checked α}
    (reading : Entity.IsReading read part) (total : ∀ u id, u.requireId = .ok id → ∃ value, part u = .ok value)
    (reachable : ∀ e ∈ entities, e.Reachable) {ids : List RecordId}
    (identified : (entities.map Entity.uncached).mapM Uncached.requireId = .ok ids) :
    ∃ parts entities', collect read entities = (.ok parts, entities') ∧ RereadAll entities entities' ∧
      (entities.map Entity.uncached).mapM part = .ok parts := by
  obtain ⟨result, reread⟩ := collect_eq reading reachable
  have each : ∀ u ∈ entities.map Entity.uncached, ∃ value, part u = .ok value := fun u listed => by
    obtain ⟨id, read⟩ := exists_mapM_eq_ok_iff.mp ⟨ids, identified⟩ u listed
    exact total u id read
  obtain ⟨parts, read⟩ := exists_mapM_eq_ok_iff.mpr each
  rw [read] at result
  exact ⟨parts, _, Prod.ext result rfl, reread, read⟩

theorem updateRecord_eq {u : Uncached} {id : RecordId} (read : u.requireId = .ok id) :
    u.updateRecord =
      .ok ⟨u.schema.idField.equals (.id id), u.stagedRecord.erase u.schema.idField.columnName⟩ := by
  rw [Uncached.updateRecord, read]
  rfl

theorem deleteRecord_eq {u : Uncached} {id : RecordId} (read : u.requireId = .ok id) :
    u.deleteRecord = .ok (u.schema.idField.equals (.id id)) := by
  rw [Uncached.deleteRecord, read]
  rfl

/-- An empty batch has nothing to send, and a batch of several tables is refused. -/
theorem settles_of_table (single : ∀ first ∈ entities, (∀ e ∈ entities, e.schema.table = first.schema.table) →
    batchTable entities = .ok (some first.schema.table) → t.Settles w entities) : t.Settles w entities := by
  obtain ⟨rfl, _⟩ | ⟨e, member, e', member', different, error, mixed⟩ | ⟨first, member, tables, found⟩ :=
    batchTable_cases entities
  · refine .inr ⟨[], ⟨⟨⟨"", none, []⟩, nofun, rfl⟩, fun _ => ⟨[], rfl, .nil⟩⟩, fun b => ?_⟩
    cases w <;> rfl
  · refine .inl ⟨.mixedTables member member' different, fun b => ⟨error, ?_⟩⟩
    cases w
    · rw [write, insert, mixed]
      rfl
    · rw [write, update, mixed]
      rfl
    · rw [write, delete, mixed]
      rfl
  · exact single first member tables found

theorem lists_of_tables {first : Entity} {T : CatalogTable}
    (tables : ∀ e ∈ entities, e.schema.table = first.schema.table) (listed : t.catalog.Lists first.schema.table T) :
    ∀ u ∈ entities.map Entity.uncached, t.catalog.Lists u.schema.table T := by
  intro u present
  obtain ⟨e, member, rfl⟩ := List.mem_map.mp present
  rw [Entity.uncached_schema, tables e member]
  exact listed

/-- A batch whose entities are read is sent once its statements are compiled, and given back if they are not. -/
def onceCompiled (statements : Checked (List String)) (entities : List Entity) (b : Backend)
    (send : List String → BatchOutcome) : BatchOutcome :=
  match statements with
  | .error error => ⟨.error error, entities, b⟩
  | .ok statements => send statements

theorem insert_settles (reachable : ∀ e ∈ entities, e.Reachable) : t.Settles .insert entities := by
  refine settles_of_table fun first member tables single => ?_
  obtain ⟨read, reread⟩ := collect_eq Entity.isReading_insertRecord reachable
  rcases collected : collect Entity.insertRecord entities with ⟨error | records, entities'⟩
  · rw [collected] at read reread
    obtain ⟨u, listed, failed⟩ := mem_of_mapM_eq_error read.symm
    refine .inl ⟨faulty_of_insertRecord reachable listed failed, fun b => ⟨error, ?_⟩⟩
    rw [write, insert, single]
    dsimp only
    rw [collected, ← reread.uncached_eq]
    rfl
  · rw [collected] at read reread
    have query : Writing.query .insert first.schema.table entities =
        .ok (.insert ⟨first.schema.table, records⟩) := by
      rw [Writing.query, mapM_read_eq Entity.isReading_insertRecord reachable, ← read]
      rfl
    have written (b : Backend) : t.write .insert entities b =
        onceCompiled (t.compile (.insert ⟨first.schema.table, records⟩)) entities' b fun statements =>
          sendInserts first.schema.table statements entities' b := by
      rw [write, insert, single]
      dsimp only
      rw [collected]
      rfl
    cases compiled : t.compile (.insert ⟨first.schema.table, records⟩) with
    | error error =>
      refine .inl ⟨.refused member query compiled, fun b => ⟨error, ?_⟩⟩
      rw [written, compiled, ← reread.uncached_eq]
      rfl
    | ok statements =>
      obtain ⟨T, listed, made, checked, rfl⟩ := compile_insert_iff.mp compiled
      have requests := (CatalogTable.insertRequests_eq_ok_iff t.idColumn read.symm).mpr ⟨made, checked, rfl⟩
      refine .inr ⟨_, ⟨⟨T, lists_of_tables tables listed, requests⟩, nofun⟩, fun b => ?_⟩
      rw [written, compiled, ← reread.uncached_eq, table?_name listed.found]
      exact sendInserts_sent ..

/-! Updates and deletes are alike but for what the entities contribute to the query. -/

/-- A writing to which each entity contributes a part, and a statement of its own if the part is needed. -/
structure Changes (t : Tenant) (w : Writing) {α : Type} (read : Entity → Checked α × Entity)
    (part : Uncached → Checked α) (needed : α → Bool) (statement : CatalogTable → α → Checked Statement)
    (query : String → List α → Query) : Prop where
  change : w ≠ .insert
  reading : Entity.IsReading read part
  total : ∀ u id, u.requireId = .ok id → ∃ value, part u = .ok value
  requestOf_eq : ∀ T : CatalogTable, T.requestOf t.idColumn w = changeRequest part needed (statement T)
  query_eq : ∀ table entities, w.query table entities =
    (entities.mapM fun e => (read e).1).map fun parts => query table (parts.filter needed)
  compile_eq : ∀ table parts, t.catalog.compile t.idColumn (query table parts) =
    t.catalog.checkTable table >>= fun T => parts.mapM (statement T)
  unidentified : ∀ {entities entities' table error}, batchTable entities = .ok (some table) →
    collectIds [] entities = (.error error, entities') → ∀ b, t.write w entities b = ⟨.error error, entities', b⟩
  identified : ∀ {entities entities' entities'' table ids parts}, batchTable entities = .ok (some table) →
    collectIds [] entities = (.ok ids, entities') → collect read entities' = (.ok parts, entities'') →
    ids.length = parts.length → ∀ b, t.write w entities b =
      onceCompiled (t.compile (query table (parts.filter needed))) entities'' b fun statements =>
        sendChanges (List.zipWith (fun id value => if needed value then some id else none) ids parts) statements
          entities'' b

theorem changes_update (t : Tenant) :
    t.Changes .update Entity.updateRecord Uncached.updateRecord hasUpdates
      (fun T => T.updateStatement t.idColumn) fun table changes => .update ⟨table, changes⟩ where
  change := nofun
  reading := Entity.isReading_updateRecord
  total := fun u id read => ⟨_, updateRecord_eq read⟩
  requestOf_eq := fun _ => rfl
  query_eq := fun _ _ => rfl
  compile_eq := fun _ _ => rfl
  unidentified := fun single collected b => by
    rw [write, update, single]
    dsimp only
    rw [collected]
  identified := fun single collected collected' _ b => by
    have plan : (fun (id : RecordId) (change : Query.Change) => if change.updates.isEmpty then none else some id) =
        fun id change => if hasUpdates change then some id else none := by
      funext id change
      rw [hasUpdates]
      cases change.updates.isEmpty <;> rfl
    rw [write, update, single, ← plan]
    dsimp only
    rw [collected]
    dsimp only
    rw [collected']
    rfl

theorem changes_delete (t : Tenant) :
    t.Changes .delete Entity.deleteRecord Uncached.deleteRecord (fun _ => true)
      (fun T => T.deleteStatement t.idColumn) fun table filters => .delete ⟨table, filters⟩ where
  change := nofun
  reading := Entity.isReading_deleteRecord
  total := fun u id read => ⟨_, deleteRecord_eq read⟩
  requestOf_eq := fun _ => rfl
  query_eq := fun _ _ => by simp only [List.filter_true]; rfl
  compile_eq := fun _ _ => rfl
  unidentified := fun single collected b => by
    rw [write, delete, single]
    dsimp only
    rw [collected]
  identified := fun {_ _ _ _ ids filters} single collected collected' lengths b => by
    have plan : List.zipWith (fun id _ => if true then some id else none) ids filters = ids.map some := by
      rw [← List.map_uncurry_zip_eq_zipWith]
      conv_rhs => rw [← List.map_fst_zip lengths.le, List.map_map]
      rfl
    rw [write, delete, single, plan, List.filter_true]
    dsimp only
    rw [collected]
    dsimp only
    rw [collected']
    rfl

section

variable {α : Type} {read : Entity → Checked α × Entity} {part : Uncached → Checked α} {needed : α → Bool}
  {statement : CatalogTable → α → Checked Statement} {query : String → List α → Query}

/-- Where all entities have identifiers, all of them contribute. -/
theorem Changes.exists_parts (changes : t.Changes w read part needed statement query) {entities' : List Entity}
    (reread : RereadAll entities entities') {ids : List RecordId}
    (identified : (entities.map Entity.uncached).mapM Uncached.requireId = .ok ids) :
    ∃ parts entities'', collect read entities' = (.ok parts, entities'') ∧ RereadAll entities entities'' ∧
      (entities.map Entity.uncached).mapM part = .ok parts ∧ ids.length = parts.length := by
  obtain ⟨parts, entities'', collected, reread', taken⟩ := collect_of_identified changes.reading changes.total
    reread.reachable (reread.uncached_eq ▸ identified)
  rw [reread.uncached_eq] at taken
  exact ⟨parts, entities'', collected, ⟨reread'.uncached_eq.trans reread.uncached_eq, reread'.reachable⟩, taken,
    (mapM_eq_ok_iff.mp identified).length_eq.symm.trans (mapM_eq_ok_iff.mp taken).length_eq⟩

theorem Changes.query_of_read (changes : t.Changes w read part needed statement query)
    (reachable : ∀ e ∈ entities, e.Reachable) {parts : List α}
    (collected : (entities.map Entity.uncached).mapM part = .ok parts) (table : String) :
    w.query table entities = .ok (query table (parts.filter needed)) := by
  rw [changes.query_eq, mapM_read_eq changes.reading reachable, collected]
  rfl

theorem Changes.settles (changes : t.Changes w read part needed statement query)
    (reachable : ∀ e ∈ entities, e.Reachable) : t.Settles w entities := by
  refine settles_of_table fun first member tables single => ?_
  obtain ⟨error, entities', collected, reread, faulty⟩ | ⟨ids, entities', collected, reread, identified, distinct⟩ :=
    identified_or_faulty changes.change reachable
  · refine .inl ⟨faulty, fun b => ⟨error, ?_⟩⟩
    rw [changes.unidentified single collected, ← reread.uncached_eq]
    rfl
  · obtain ⟨parts, entities'', collected', reread', taken, lengths⟩ := changes.exists_parts reread identified
    have written := changes.identified single collected collected' lengths
    cases compiled : t.compile (query first.schema.table (parts.filter needed)) with
    | error error =>
      refine .inl ⟨.refused member (changes.query_of_read reachable taken _) compiled, fun b => ⟨error, ?_⟩⟩
      rw [written, compiled, ← reread'.uncached_eq]
      rfl
    | ok statements =>
      obtain ⟨T, listed, made, checked, rfl⟩ := (compile_batch_iff (changes.compile_eq _ _)).mp compiled
      have requests := (changeRequests_eq_ok_iff needed identified taken).mpr ⟨made, checked, rfl⟩
      rw [← changes.requestOf_eq] at requests
      refine .inr ⟨_, ⟨⟨T, lists_of_tables tables listed, requests⟩, fun _ => ⟨ids, identified, distinct⟩⟩, fun b => ?_⟩
      rw [written, compiled, ← reread'.uncached_eq]
      exact sendChanges_sent changes.change ..

end

theorem settles (w : Writing) (reachable : ∀ e ∈ entities, e.Reachable) : t.Settles w entities := by
  cases w with
  | insert => exact insert_settles reachable
  | update => exact t.changes_update.settles reachable
  | delete => exact t.changes_delete.settles reachable

/-! Requests mean that there is no fault. -/

theorem id?_of_requestOf {T : CatalogTable} {idColumn : String} {u : Uncached} {request : Option Request}
    (requested : T.requestOf idColumn w u = .ok request) :
    (w = .insert ∧ u.id? = .ok none) ∨ (w ≠ .insert ∧ ∃ id, u.id? = .ok (some id)) := by
  cases w with
  | insert =>
    obtain ⟨record, read, _⟩ := bind_eq_ok_iff.mp requested
    obtain ⟨id, read, rest⟩ := bind_eq_ok_iff.mp read
    cases id with
    | none => exact .inl ⟨rfl, read⟩
    | some id => cases rest
  | update =>
    obtain ⟨id, read, _⟩ := bind_eq_ok_iff.mp requested
    exact .inr ⟨nofun, id, requireId_eq_ok_iff.mp read⟩
  | delete =>
    obtain ⟨id, read, _⟩ := bind_eq_ok_iff.mp requested
    exact .inr ⟨nofun, id, requireId_eq_ok_iff.mp read⟩

variable {requests : List (Option Request)}

theorem Changes.compile_of_prepares {α : Type} {read : Entity → Checked α × Entity} {part : Uncached → Checked α}
    {needed : α → Bool} {statement : CatalogTable → α → Checked Statement} {query : String → List α → Query}
    (changes : t.Changes w read part needed statement query) (reachable : ∀ e ∈ entities, e.Reachable)
    (prepared : t.Prepares w (entities.map Entity.uncached) requests) {first : Entity} (member : first ∈ entities) :
    ∃ query, w.query first.schema.table entities = .ok query ∧
      t.compile query = .ok (Request.statements requests) := by
  obtain ⟨T, listed, requested⟩ := prepared.requests
  obtain ⟨ids, identified, _⟩ := prepared.distinct changes.change
  obtain ⟨parts, _, _, _, taken, lengths⟩ := changes.exists_parts ⟨rfl, reachable⟩ identified
  rw [changes.requestOf_eq, changeRequests_eq_ok_iff needed identified taken] at requested
  obtain ⟨made, checked, rfl⟩ := requested
  refine ⟨_, changes.query_of_read reachable taken _, ?_⟩
  rw [statements_changes]
  · exact (compile_batch_iff (changes.compile_eq _ _)).mpr
      ⟨T, listed _ (List.mem_map_of_mem member), made, checked, rfl⟩
  · exact lengths
  · rw [List.length_map, (mapM_eq_ok_iff.mp checked).length_eq]

/-- The records of a batch that is prepared compile to the statements of its requests. -/
theorem compile_of_prepares (reachable : ∀ e ∈ entities, e.Reachable)
    (prepared : t.Prepares w (entities.map Entity.uncached) requests) {first : Entity} (member : first ∈ entities) :
    ∃ query, w.query first.schema.table entities = .ok query ∧
      t.compile query = .ok (Request.statements requests) := by
  cases w with
  | insert =>
    obtain ⟨T, listed, requested⟩ := prepared.requests
    have each : ∀ u ∈ entities.map Entity.uncached, ∃ record, u.insertRecord = .ok record := fun u present => by
      obtain ⟨request, requested⟩ := exists_mapM_eq_ok_iff.mp ⟨requests, requested⟩ u present
      obtain ⟨record, read, _⟩ := bind_eq_ok_iff.mp requested
      exact ⟨record, read⟩
    obtain ⟨records, read⟩ := exists_mapM_eq_ok_iff.mpr each
    obtain ⟨made, checked, rfl⟩ := (CatalogTable.insertRequests_eq_ok_iff t.idColumn read).mp requested
    refine ⟨.insert ⟨first.schema.table, records⟩, ?_, ?_⟩
    · rw [Writing.query, mapM_read_eq Entity.isReading_insertRecord reachable, read]
      rfl
    · rw [statements_inserts]
      exact compile_insert_iff.mpr ⟨T, listed _ (List.mem_map_of_mem member), made, checked, rfl⟩
  | update => exact t.changes_update.compile_of_prepares reachable prepared member
  | delete => exact t.changes_delete.compile_of_prepares reachable prepared member

theorem not_faulty_of_prepares (reachable : ∀ e ∈ entities, e.Reachable)
    (prepared : t.Prepares w (entities.map Entity.uncached) requests) : ¬ t.Faulty entities w := by
  obtain ⟨⟨T, listed, requested⟩, distinct⟩ := prepared
  have read {e : Entity} (member : e ∈ entities) :
      (w = .insert ∧ e.id?.1 = .ok none) ∨ (w ≠ .insert ∧ ∃ id, e.id?.1 = .ok (some id)) := by
    obtain ⟨request, requested⟩ := exists_mapM_eq_ok_iff.mp ⟨requests, requested⟩ _ (List.mem_map_of_mem member)
    rw [(reachable e member).coherent.id?.result_eq]
    exact id?_of_requestOf requested
  intro faulty
  cases faulty with
  | mixedTables member member' different =>
    have name := table?_name (listed _ (List.mem_map_of_mem member)).found
    have name' := table?_name (listed _ (List.mem_map_of_mem member')).found
    exact different (name.symm.trans name')
  | unreadableId member failed =>
    obtain ⟨_, same⟩ | ⟨_, _, same⟩ := read member <;> cases failed.symm.trans same
  | identified member found =>
    obtain ⟨_, same⟩ | ⟨change, _⟩ := read member
    · cases found.symm.trans same
    · exact change rfl
  | unidentified change member missing =>
    obtain ⟨insert, _⟩ | ⟨_, _, same⟩ := read member
    · exact change insert
    · cases missing.symm.trans same
  | repeatedId change before first second read read' =>
    obtain ⟨ids, identified, distinct⟩ := distinct change
    have first := (getElem?_identified reachable identified).mpr ⟨_, first, read⟩
    have second := (getElem?_identified reachable identified).mpr ⟨_, second, read'⟩
    exact List.nodup_iff_getElem?_ne_getElem?.mp distinct _ _ before (List.getElem?_eq_some_iff.mp second).1
      (first.trans second.symm)
  | refused member records failed =>
    obtain ⟨query, records', compiled⟩ := compile_of_prepares reachable ⟨⟨T, listed, requested⟩, distinct⟩ member
    cases records.symm.trans records'
    cases failed.symm.trans compiled

/-! A batch without a fault has its requests, and no others. -/

theorem prepares_of_sound (reachable : ∀ e ∈ entities, e.Reachable) (sound : ¬ t.Faulty entities w) :
    ∃ requests, t.Prepares w (entities.map Entity.uncached) requests := by
  obtain ⟨faulty, _⟩ | ⟨requests, prepared, _⟩ := t.settles w reachable
  · exact absurd faulty sound
  · exact ⟨requests, prepared⟩

theorem Prepares.unique {us : List Uncached} {requests' : List (Option Request)}
    (prepared : t.Prepares w us requests) (prepared' : t.Prepares w us requests') : requests = requests' := by
  obtain ⟨⟨T, listed, requested⟩, _⟩ := prepared
  obtain ⟨⟨T', listed', requested'⟩, _⟩ := prepared'
  cases us with
  | nil => exact (pure_eq_ok_iff.mp requested).trans (pure_eq_ok_iff.mp requested').symm
  | cons u us =>
    obtain rfl := (listed u List.mem_cons_self).unique (listed' u List.mem_cons_self)
    exact Except.ok.inj (requested.symm.trans requested')

theorem write_sent (reachable : ∀ e ∈ entities, e.Reachable)
    (prepared : t.Prepares w (entities.map Entity.uncached) requests) (b : Backend) :
    (t.write w entities b).sent = send w requests (entities.map Entity.uncached) b := by
  obtain ⟨faulty, _⟩ | ⟨requests', prepared', sent⟩ := t.settles w reachable
  · exact absurd faulty (not_faulty_of_prepares reachable prepared)
  · rw [prepared.unique prepared']
    exact sent b

end Tenant
end Tenancy
