import Tenancy.Proofs.Store.Validation

/-! Retrying an update. After an update that fails, the entities that were answered have nothing left to
change, and the others are as they were. So the next update of the batch sends what is left of the
statements, if rows are of the records of the entities they answer. -/
namespace Tenancy

open Request (statements)

/-- Whether an update has something to change. -/
def Entity.hasChanges (e : Entity) : Bool := e.dirty.any fun column => column ≠ e.schema.idField.columnName

/-- The row has the identifier of the entity. -/
def Entity.IsRowOf (e : Entity) (row : Record) : Prop := (ofRow e.schema row).id?.1 = e.id?.1

/-- Each row is one of the entity that it answers, up to the first reply without a row. -/
def AnswersOwn : List Entity → List Reply → Prop
  | [], _ => True
  | e :: rest, replies =>
    if e.hasChanges then
      match replies with
      | .rows (row :: _) :: replies => e.IsRowOf row ∧ AnswersOwn rest replies
      | _ => True
    else AnswersOwn rest replies

theorem answersOwn_of_clean {e : Entity} {rest : List Entity} {replies : List Reply} (clean : e.hasChanges = false)
    (own : AnswersOwn (e :: rest) replies) : AnswersOwn rest replies := by
  rw [AnswersOwn.eq_def] at own
  dsimp only at own
  rwa [clean] at own

theorem answersOwn_of_row {e : Entity} {rest : List Entity} {b : Backend} {queued : List Reply} {row : Record}
    (changed : e.hasChanges = true) (given : Writing.update.row? b.next = some row)
    (same : b.queued = b.next :: queued) (own : AnswersOwn (e :: rest) b.queued) :
    e.IsRowOf row ∧ AnswersOwn rest queued := by
  rcases reply : b.next with ⟨_ | ⟨first, rows⟩⟩ | error <;> rw [reply] at given same
  · cases given
  · obtain rfl : first = row := Option.some.inj given
    rwa [same, AnswersOwn, if_pos changed] at own
  · cases given

namespace Uncached

def hasChanges (u : Uncached) : Bool := u.staged.keys.any fun column => column ≠ u.schema.idField.columnName

theorem hasUpdates_eq (u : Uncached) (filter : Condition) :
    hasUpdates ⟨filter, u.stagedRecord.erase u.schema.idField.columnName⟩ = u.hasChanges := by
  rw [Bool.eq_iff_iff]
  simp [hasUpdates, hasChanges, OrderedMap.isEmpty, OrderedMap.erase, stagedRecord, OrderedMap.keys]

variable {u : Uncached} {T : CatalogTable} {idColumn : String}

theorem isSome_of_requestOf {request : Option Request} (requested : T.requestOf idColumn .update u = .ok request) :
    request.isSome = u.hasChanges := by
  obtain ⟨id, read, rest⟩ := bind_eq_ok_iff.mp requested
  rw [Tenant.updateRecord_eq read, ok_bind, hasUpdates_eq] at rest
  split at rest
  · rename_i changed
    obtain ⟨s, _, same⟩ := bind_eq_ok_iff.mp rest
    rw [pure_eq_ok_iff.mp same, changed]
    rfl
  · rename_i clean
    rw [pure_eq_ok_iff.mp rest, Bool.eq_false_iff.mpr clean]
    rfl

theorem requestOf_clean {id : RecordId} (read : u.requireId = .ok id) (clean : u.hasChanges = false) :
    T.requestOf idColumn .update u = .ok none := by
  rw [CatalogTable.requestOf, changeRequest, read, ok_bind, Tenant.updateRecord_eq read, ok_bind, hasUpdates_eq,
    clean]
  rfl

end Uncached

namespace Tenant

variable {t : Tenant} {entities : List Entity} {requests : List (Option Request)}

/-- What is left to send of a batch after some of it is answered. -/
structure Remains (T : CatalogTable) (idColumn : String) (before after : List Uncached) (texts : List String) :
    Prop where
  schemas : after.map Uncached.schema = before.map Uncached.schema
  ids : after.mapM Uncached.requireId = before.mapM Uncached.requireId
  rest : ∃ requests, after.mapM (T.requestOf idColumn .update) = .ok requests ∧ statements requests = texts

theorem Remains.cons {T : CatalogTable} {idColumn : String} {u u' : Uncached} {before after : List Uncached}
    {texts : List String} {request : Option Request} (remains : Remains T idColumn before after texts)
    (id : u'.requireId = u.requireId) (schema : u'.schema = u.schema)
    (requested : T.requestOf idColumn .update u' = .ok request) :
    Remains T idColumn (u :: before) (u' :: after) (request.toList.map Request.sql ++ texts) := by
  obtain ⟨requests, rest, rfl⟩ := remains.rest
  refine ⟨congrArg₂ List.cons schema remains.schemas, ?_, request :: requests, ?_, ?_⟩
  · rw [List.mapM_cons, List.mapM_cons, id, remains.ids]
  · rw [List.mapM_cons, requested, ok_bind, rest]
    rfl
  · cases request <;> rfl

theorem Remains.prepares {T : CatalogTable} {before after : List Uncached} {texts : List String}
    (remains : Remains T t.idColumn before after texts) (prepared : t.Prepares .update before requests)
    (listed : ∀ u ∈ before, t.catalog.Lists u.schema.table T) :
    ∃ requests', t.Prepares .update after requests' ∧ statements requests' = texts := by
  obtain ⟨requests', rest, same⟩ := remains.rest
  refine ⟨requests', ⟨⟨T, fun u' member => ?_, rest⟩, fun change => ?_⟩, same⟩
  · obtain ⟨u, member, schema⟩ := exists_of_map_eq remains.schemas member
    exact schema ▸ listed u member
  · rw [remains.ids]
    exact prepared.distinct change

theorem requireId_applyRow {e : Entity} (reachable : e.Reachable) {row : Record} (own : e.IsRowOf row) :
    (e.uncached.applyRow row).requireId = e.uncached.requireId := by
  have read : (Entity.ofRow e.schema row).id?.1 = (e.uncached.applyRow row).id? :=
    (Entity.reachable_ofRow e.schema row).coherent.id?.result_eq
  have same : (e.uncached.applyRow row).id? = e.uncached.id? := by
    rw [← read, own, reachable.coherent.id?.result_eq]
  rw [Uncached.requireId, Uncached.requireId, same]
  rfl

theorem remains_after_update {T : CatalogTable} {idColumn : String} (reachable : ∀ e ∈ entities, e.Reachable)
    (requested : (entities.map Entity.uncached).mapM (T.requestOf idColumn .update) = .ok requests) {b : Backend}
    (own : AnswersOwn entities b.queued) :
    Remains T idColumn (entities.map Entity.uncached)
      (send .update requests (entities.map Entity.uncached) b).entities
      ((statements requests).drop (Writing.update.answered b.queued)) := by
  induction entities generalizing requests b with
  | nil =>
    obtain rfl := pure_eq_ok_iff.mp requested
    exact ⟨rfl, rfl, [], rfl, by simp⟩
  | cons e rest ih =>
    obtain ⟨here, later⟩ := List.forall_mem_cons.mp reachable
    obtain ⟨request, others, first, rest', rfl⟩ := List.forall₂_cons_left_iff.mp (mapM_eq_ok_iff.mp requested)
    have others := mapM_eq_ok_iff.mpr rest'
    have changed : request.isSome = e.hasChanges := by
      rw [Uncached.isSome_of_requestOf first, Entity.hasChanges, e.dirty_eq]
      rfl
    rw [List.map_cons]
    cases request with
    | none =>
      rw [send_none]
      exact (ih later others (answersOwn_of_clean changed.symm own)).cons rfl rfl first
    | some request =>
      cases given : Writing.update.row? b.next with
      | some row =>
        obtain ⟨queued, same, answered⟩ := Backend.answered_of_row given
        obtain ⟨carried, own⟩ := answersOwn_of_row changed.symm given same own
        obtain ⟨id, read, _⟩ := bind_eq_ok_iff.mp first
        have read' := requireId_applyRow here carried
        have clean : T.requestOf idColumn .update (e.uncached.applyRow row) = .ok none :=
          Uncached.requestOf_clean (read'.trans read) rfl
        rw [send_row given, answered, Request.statements_some, List.drop_succ_cons]
        have tail : (b.after request.sql).queued = queued := congrArg List.tail same
        have rest := ih later others (tail.symm ▸ own)
        rw [tail] at rest
        exact rest.cons read' rfl clean
      | none =>
        rw [send_missing given, Backend.answered_of_none given]
        exact ⟨rfl, rfl, _, requested, rfl⟩

/-- After an update that fails, another one sends the statements from the failed one on, as they were; and
after one that succeeds it sends nothing. -/
theorem update_retry_sends_rest (t : Tenant) (entities : List Entity) (reachable : ∀ e ∈ entities, e.Reachable)
    (sound : ¬ t.Faulty entities .update) :
    ∃ texts, t.Sends .update entities texts ∧ ∀ b, AnswersOwn entities b.queued →
      (∀ error, (t.update entities b).result = .error error → ∃ k < texts.length,
        (t.update entities b).backend.received = b.received ++ texts.take (k + 1) ∧
        t.Sends .update (t.update entities b).entities (texts.drop k)) ∧
      ((t.update entities b).result = .ok () → t.Sends .update (t.update entities b).entities []) := by
  obtain ⟨requests, prepared⟩ := prepares_of_sound reachable sound
  have sends := sends_of_prepares reachable prepared
  refine ⟨statements requests, sends, fun b own => ?_⟩
  have left : t.Sends .update (t.update entities b).entities
      ((statements requests).drop (Writing.update.answered b.queued)) := by
    obtain ⟨T, listed, requested⟩ := prepared.requests
    obtain ⟨requests', prepared', rest⟩ := (remains_after_update reachable requested own).prepares prepared listed
    rw [← write_sent reachable prepared] at prepared'
    exact rest ▸ sends_of_prepares (write_reachable t .update reachable b) prepared'
  refine ⟨fun error failed => ⟨Writing.update.answered b.queued, ?_, sends.received b, left⟩, fun written => ?_⟩
  · rw [← Nat.not_le, ← sends.succeeds_iff b]
    intro written
    cases failed.symm.trans written
  · rwa [List.drop_eq_nil_of_le ((sends.succeeds_iff b).mp written)] at left

/-- The first of two users is written and the second is not, so only the second is sent again. -/
theorem update_retry_of_secondFailed :
    ∃ (schema : Schema) (t : Tenant) (first second : Entity) (b : Backend),
      Schema.build ⟨"User", "users", none, "id", [{ name := "name", type := .string }]⟩ = .ok schema ∧
      t = ⟨⟨"o1", none, [⟨"users", none, [{ name := "id", type := "string" }, { name := "name", type := "string" }]⟩]⟩,
        "id"⟩ ∧
      (Entity.ofRow schema ⟨[("id", .string "US1o1aa00000001")]⟩).set (.name "name") (.string "Ann") = .ok first ∧
      (Entity.ofRow schema ⟨[("id", .string "US1o1aa00000002")]⟩).set (.name "name") (.string "Bo") = .ok second ∧
      b = ⟨[.rows [⟨[("id", .string "US1o1aa00000001"), ("name", .string "Ann")]⟩], .rows []], []⟩ ∧
      ∃ texts, t.Sends .update [first, second] texts ∧ ∃ k < texts.length,
        (t.update [first, second] b).backend.received = texts.take (k + 1) ∧
        t.Sends .update (t.update [first, second] b).entities (texts.drop k) := by
  have retry {t : Tenant} {entities : List Entity} {b : Backend} {error : DataError}
      (reachable : ∀ e ∈ entities, e.Reachable) (sound : ¬ t.Faulty entities .update)
      (own : AnswersOwn entities b.queued) (failed : (t.update entities b).result = .error error) :
      ∃ texts, t.Sends .update entities texts ∧ ∃ k < texts.length,
        (t.update entities b).backend.received = b.received ++ texts.take (k + 1) ∧
        t.Sends .update (t.update entities b).entities (texts.drop k) := by
    obtain ⟨texts, sends, again⟩ := update_retry_sends_rest t entities reachable sound
    exact ⟨texts, sends, (again b own).1 error failed⟩
  refine ⟨_, _, _, _, _, rfl, rfl, rfl, rfl, rfl, retry ?reachable
    (not_faulty_of_prepares ?reachable ⟨⟨_, List.forall_mem_cons.mpr ⟨⟨rfl, rfl⟩, ?listed⟩, rfl⟩,
      fun _ => ⟨_, rfl, by decide⟩⟩) ⟨rfl, trivial⟩ rfl⟩
  case reachable =>
    refine List.forall_mem_cons.mpr ⟨?_, List.forall_mem_singleton.mpr ?_⟩
    · exact Entity.reachable_of_written ⟨[("id", .string "US1o1aa00000001")]⟩ "name" "Ann" rfl
    · exact Entity.reachable_of_written ⟨[("id", .string "US1o1aa00000002")]⟩ "name" "Bo" rfl
  case listed => exact List.forall_mem_singleton.mpr ⟨rfl, rfl⟩

end Tenant
end Tenancy
