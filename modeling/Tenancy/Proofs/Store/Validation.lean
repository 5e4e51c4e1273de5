import Tenancy.Proofs.Store.Faults

/-! Batches are checked as a whole. A batch with a fault anywhere is refused before anything is sent, and
leaves its entities as they are. Any other batch is sent, and no two of its updates or deletes name the
same record. -/
namespace Tenancy

namespace Tenant

variable {t : Tenant} {w : Writing} {entities : List Entity} {requests : List (Option Request)}

/-! Entities of a batch are still such that come up in runs of calls. -/

theorem sendInserts_reachable {table : String} {statements : List String} {b : Backend}
    (reachable : ∀ e ∈ entities, e.Reachable) :
    ∀ e ∈ (sendInserts table statements entities b).entities, e.Reachable := by
  induction statements generalizing entities b with
  | nil => exact reachable
  | cons sql statements ih =>
    cases entities with
    | nil => exact reachable
    | cons e rest =>
      obtain ⟨here, later⟩ := List.forall_mem_cons.mp reachable
      rw [sendInserts, Backend.execute_eq]
      rcases b.next with ⟨_ | ⟨row, _ | ⟨_, _⟩⟩⟩ | error
      · exact reachable
      · exact List.forall_mem_cons.mpr ⟨here.applyRow row, ih later⟩
      · exact reachable
      · exact reachable

theorem sendChanges_reachable {plans : List (Option RecordId)} {statements : List String} {b : Backend}
    (reachable : ∀ e ∈ entities, e.Reachable) :
    ∀ e ∈ (sendChanges plans statements entities b).entities, e.Reachable := by
  induction plans generalizing entities statements b with
  | nil => exact reachable
  | cons plan plans ih =>
    cases entities with
    | nil => cases plan <;> cases statements <;> exact reachable
    | cons e rest =>
      obtain ⟨here, later⟩ := List.forall_mem_cons.mp reachable
      cases plan with
      | none => exact List.forall_mem_cons.mpr ⟨here, ih later⟩
      | some id =>
        cases statements with
        | nil => exact reachable
        | cons sql statements =>
          rw [sendChanges, Backend.execute_eq]
          rcases b.next with ⟨_ | ⟨row, rows⟩⟩ | error
          · exact reachable
          · exact List.forall_mem_cons.mpr ⟨here.applyRow row, ih later⟩
          · exact reachable

theorem Changes.write_reachable {α : Type} {read : Entity → Checked α × Entity} {part : Uncached → Checked α}
    {needed : α → Bool} {statement : CatalogTable → α → Checked Sql.Statement} {query : String → List α → Query}
    (changes : t.Changes w read part needed statement query) (reachable : ∀ e ∈ entities, e.Reachable) {table : String}
    (single : batchTable entities = .ok (some table)) (b : Backend) :
    ∀ e ∈ (t.write w entities b).entities, e.Reachable := by
  obtain ⟨error, entities', collected, reread, _⟩ | ⟨ids, entities', collected, reread, identified, _⟩ :=
    identified_or_faulty (t := t) changes.change reachable
  · rw [changes.unidentified single collected]
    exact reread.reachable
  · obtain ⟨parts, entities'', collected', reread', _, lengths⟩ := changes.exists_parts reread identified
    rw [changes.identified single collected collected' lengths]
    cases t.compile (query table (parts.filter needed)) with
    | error error => exact reread'.reachable
    | ok statements => exact sendChanges_reachable reread'.reachable

theorem write_reachable (t : Tenant) (w : Writing) (reachable : ∀ e ∈ entities, e.Reachable) (b : Backend) :
    ∀ e ∈ (t.write w entities b).entities, e.Reachable := by
  rcases table : batchTable entities with error | _ | table
  · cases w <;> simpa [write, insert, update, delete, table] using reachable
  · cases w <;> simpa [write, insert, update, delete, table] using reachable
  cases w with
  | insert =>
    have reread := (collect_eq Entity.isReading_insertRecord reachable).2.reachable
    rw [write, insert, table]
    dsimp only
    rcases collected : collect Entity.insertRecord entities with ⟨error | records, entities'⟩ <;>
      rw [collected] at reread
    · exact reread
    · dsimp only
      split
      · exact reread
      · exact sendInserts_reachable reread
  | update => exact t.changes_update.write_reachable reachable table b
  | delete => exact t.changes_delete.write_reachable reachable table b

/-- The statements are received one by one while rows come back, and all of them just when the batch is
written. -/
structure Sends (t : Tenant) (w : Writing) (entities : List Entity) (statements : List String) : Prop where
  received : ∀ b, (t.write w entities b).backend.received = b.received ++ statements.take (w.answered b.queued + 1)
  succeeds_iff : ∀ b, (t.write w entities b).result = .ok () ↔ statements.length ≤ w.answered b.queued

theorem sends_of_prepares (reachable : ∀ e ∈ entities, e.Reachable)
    (prepared : t.Prepares w (entities.map Entity.uncached) requests) :
    t.Sends w entities (Request.statements requests) := by
  obtain ⟨T, _, requested⟩ := prepared.requests
  have paired := (mapM_eq_ok_iff.mp requested).length_eq.symm
  have sent := write_sent reachable prepared
  refine ⟨fun b => ?_, fun b => ?_⟩
  · have backend := send_backend (w := w) paired b
    rw [← sent] at backend
    exact congrArg Backend.received backend
  · rw [← send_result paired, ← sent]
    rfl

/-! Which records the statements of a batch change. -/

/-- The statement is one of a listed table that changes the record of the identifier alone. -/
def Names (t : Tenant) : Writing → String → RecordId → Prop
  | .insert, _, _ => False
  | .update, sql, id => ∃ name table updates, t.catalog.Lists name table ∧
      sql = table.updateSql t.idColumn id.text updates
  | .delete, sql, id => ∃ name table, t.catalog.Lists name table ∧ sql = table.deleteSql t.idColumn id.text

theorem text_of_equals {f : Field} {id : RecordId} {column text : String}
    (same : f.equals (.id id) = CatalogTable.idCondition column text) : text = id.text := by
  have right : Operand.value (.string id.text) = .value (.string text) := congrArg Condition.right same
  simpa using right.symm

theorem names_of_requestOf (change : w ≠ .insert) {u : Uncached} {request : Request} {name : String}
    {table : CatalogTable} (listed : t.catalog.Lists name table)
    (requested : table.requestOf t.idColumn w u = .ok (some request)) :
    ∃ id, u.requireId = .ok id ∧ t.Names w request.sql id := by
  cases w with
  | insert => exact absurd rfl change
  | update =>
    obtain ⟨id, read, rest⟩ := bind_eq_ok_iff.mp requested
    rw [updateRecord_eq read, ok_bind] at rest
    split at rest
    · obtain ⟨s, compiled, same⟩ := bind_eq_ok_iff.mp rest
      obtain rfl := Option.some.inj (pure_eq_ok_iff.mp same)
      obtain ⟨text, filter, sql⟩ := (CatalogTable.updateStatement_iff.mp compiled).2.sql
      obtain rfl := text_of_equals filter
      exact ⟨id, read, name, table, _, listed, sql⟩
    · cases pure_eq_ok_iff.mp rest
  | delete =>
    obtain ⟨id, read, rest⟩ := bind_eq_ok_iff.mp requested
    rw [deleteRecord_eq read, ok_bind, if_pos rfl] at rest
    obtain ⟨s, compiled, same⟩ := bind_eq_ok_iff.mp rest
    obtain rfl := Option.some.inj (pure_eq_ok_iff.mp same)
    obtain ⟨text, filter, sql⟩ := (CatalogTable.deleteStatement_iff.mp compiled).2.sql
    obtain rfl := text_of_equals filter
    exact ⟨id, read, name, table, listed, sql⟩

/-- The statements name identifiers of the batch, in its order. -/
theorem names_of_requests (change : w ≠ .insert) {us : List Uncached} {ids : List RecordId} {table : CatalogTable}
    (listed : ∀ u ∈ us, t.catalog.Lists u.schema.table table)
    (requested : us.mapM (table.requestOf t.idColumn w) = .ok requests)
    (identified : us.mapM Uncached.requireId = .ok ids) :
    ∃ named, named.Sublist ids ∧ List.Forall₂ (t.Names w) (Request.statements requests) named := by
  rw [mapM_eq_ok_iff] at requested identified
  induction requested generalizing ids with
  | nil => exact ⟨[], List.nil_sublist _, .nil⟩
  | @cons u request us requests first _ ih =>
    obtain ⟨id, ids, own, others, rfl⟩ := List.forall₂_cons_left_iff.mp identified
    obtain ⟨here, later⟩ := List.forall_mem_cons.mp listed
    obtain ⟨named, among, names⟩ := ih later others
    cases request with
    | none => exact ⟨named, among.cons id, names⟩
    | some request =>
      obtain ⟨id', own', first⟩ := names_of_requestOf change here first
      obtain rfl := Except.ok.inj (own.symm.trans own')
      exact ⟨id :: named, among.cons_cons id, .cons first names⟩

/-- A batch with a fault is refused before anything is sent, and its entities stay as they are. The
statements of any other batch are sent, and no two of its updates or deletes name the same record. -/
theorem batch_checked_before_sending (t : Tenant) (w : Writing) (entities : List Entity)
    (reachable : ∀ e ∈ entities, e.Reachable) :
    (t.Faulty entities w → ∀ b, (∃ error, (t.write w entities b).result = .error error) ∧
      (t.write w entities b).backend = b ∧ List.Forall₂ Entity.Alike entities (t.write w entities b).entities) ∧
    (¬ t.Faulty entities w → ∃ statements, t.Sends w entities statements ∧
      (∀ e ∈ entities, ∃ query, w.query e.schema.table entities = .ok query ∧ t.compile query = .ok statements) ∧
      (w ≠ .insert → ∃ ids : List RecordId, List.Forall₂ (t.Names w) statements ids ∧ ids.Nodup ∧
        ∀ id ∈ ids, ∃ e ∈ entities, e.id?.1 = .ok (some id))) := by
  constructor
  · intro faulty b
    obtain ⟨_, refused⟩ | ⟨requests, prepared, _⟩ := t.settles w reachable
    · obtain ⟨error, sent⟩ := refused b
      exact ⟨⟨error, congrArg Sent.result sent⟩, congrArg Sent.backend sent,
        Entity.alike_of_map_uncached_eq (congrArg Sent.entities sent)⟩
    · exact absurd faulty (not_faulty_of_prepares reachable prepared)
  · intro sound
    obtain ⟨requests, prepared⟩ := prepares_of_sound reachable sound
    refine ⟨Request.statements requests, sends_of_prepares reachable prepared,
      fun e member => compile_of_prepares reachable prepared member, fun change => ?_⟩
    obtain ⟨⟨table, listed, requested⟩, distinct⟩ := prepared
    obtain ⟨ids, identified, distinct⟩ := distinct change
    obtain ⟨named, among, names⟩ := names_of_requests change listed requested identified
    refine ⟨named, names, distinct.sublist among, fun id member => ?_⟩
    obtain ⟨i, found⟩ := List.mem_iff_getElem?.mp (among.subset member)
    obtain ⟨e, there, read⟩ := (getElem?_identified reachable identified).mp found
    exact ⟨e, List.mem_of_getElem? there, read⟩

/-- A zero byte in the text of one entity keeps all entities from being written. -/
theorem batch_checked_of_zeroByte :
    ∃ (schema : Schema) (t : Tenant) (first second : Entity),
      Schema.build ⟨"User", "users", none, "id", [{ name := "name", type := .string }]⟩ = .ok schema ∧
      t = ⟨⟨"o1", none, [⟨"users", none, [{ name := "id", type := "string" }, { name := "name", type := "string" }]⟩]⟩,
        "id"⟩ ∧
      (Entity.ofRow schema ⟨[("id", .string "US1o1aa00000001")]⟩).set (.name "name") (.string "Ann") = .ok first ∧
      (Entity.ofRow schema ⟨[("id", .string "US1o1aa00000002")]⟩).set (.name "name") (.string "B\x00b") = .ok second ∧
      t.Faulty [first, second] .update ∧
      ∀ b, (∃ error, (t.write .update [first, second] b).result = .error error) ∧
        (t.write .update [first, second] b).backend = b ∧
        List.Forall₂ Entity.Alike [first, second] (t.write .update [first, second] b).entities := by
  refine ⟨_, _, _, _, rfl, rfl, rfl, rfl, .refused List.mem_cons_self rfl rfl, ?_⟩
  refine (batch_checked_before_sending _ _ _ ?_).1 (.refused List.mem_cons_self rfl rfl)
  refine List.forall_mem_cons.mpr ⟨?_, List.forall_mem_singleton.mpr ?_⟩
  · exact Entity.reachable_of_written ⟨[("id", .string "US1o1aa00000001")]⟩ "name" "Ann" rfl
  · exact Entity.reachable_of_written ⟨[("id", .string "US1o1aa00000002")]⟩ "name" "B\x00b" rfl

end Tenant
end Tenancy
