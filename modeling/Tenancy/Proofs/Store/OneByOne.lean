import Tenancy.Proofs.Store.Validation

/-! A batch and its entities one by one. A batch without a fault sends what its entities send alone, and
ends like them at the first error. So each entity takes the row that answers its own statement, however
many entities before it have none. -/
namespace Tenancy

namespace Tenant

/-- Writes entities in batches of one, up to the first error. -/
def oneByOne (t : Tenant) (w : Writing) : List Entity → Backend → BatchOutcome
  | [], b => ⟨.ok (), [], b⟩
  | e :: rest, b =>
    let first := t.write w [e] b
    match first.result with
    | .error error => ⟨.error error, first.entities ++ rest, first.backend⟩
    | .ok () =>
      let others := t.oneByOne w rest first.backend
      ⟨others.result, first.entities ++ others.entities, others.backend⟩

/-- Outcomes with the same answer, after the same exchange, of entities that are alike. -/
structure BatchOutcome.Alike (outcome outcome' : BatchOutcome) : Prop where
  result : outcome'.result = outcome.result
  backend : outcome'.backend = outcome.backend
  entities : List.Forall₂ Entity.Alike outcome.entities outcome'.entities

theorem alike_of_sent_eq {outcome outcome' : BatchOutcome} (same : outcome'.sent = outcome.sent) :
    outcome.Alike outcome' :=
  ⟨congrArg Sent.result same, congrArg Sent.backend same,
    Entity.alike_of_map_uncached_eq (congrArg Sent.entities same)⟩

variable {t : Tenant} {w : Writing} {entities : List Entity} {requests : List (Option Request)}

/-! The outcome of the first entity decides how it goes on. -/

theorem oneByOne_of_error {e : Entity} {rest : List Entity} {b b' : Backend} {error : DataError} {us : List Uncached}
    (failed : (t.write w [e] b).sent = ⟨.error error, us, b'⟩) :
    (t.oneByOne w (e :: rest) b).sent = ⟨.error error, us ++ rest.map Entity.uncached, b'⟩ := by
  rw [oneByOne]
  generalize t.write w [e] b = first at failed
  rcases first with ⟨result, entities, backend⟩
  cases failed
  simp [BatchOutcome.sent]

theorem oneByOne_of_ok {e : Entity} {rest : List Entity} {b b' : Backend} {us : List Uncached}
    (written : (t.write w [e] b).sent = ⟨.ok (), us, b'⟩) :
    (t.oneByOne w (e :: rest) b).sent =
      ⟨(t.oneByOne w rest b').sent.result, us ++ (t.oneByOne w rest b').sent.entities,
        (t.oneByOne w rest b').sent.backend⟩ := by
  rw [oneByOne]
  generalize t.write w [e] b = first at written
  rcases first with ⟨result, entities, backend⟩
  cases written
  simp [BatchOutcome.sent]

/-- Entities of a batch that is prepared are prepared alone. -/
theorem Prepares.cons_left {u : Uncached} {us : List Uncached} (prepared : t.Prepares w (u :: us) requests) :
    ∃ request others, requests = request :: others ∧ t.Prepares w [u] [request] ∧ t.Prepares w us others := by
  obtain ⟨⟨T, listed, requested⟩, distinct⟩ := prepared
  obtain ⟨here, later⟩ := List.forall_mem_cons.mp listed
  obtain ⟨request, others, first, rest, rfl⟩ := List.forall₂_cons_left_iff.mp (mapM_eq_ok_iff.mp requested)
  refine ⟨request, others, rfl, ⟨⟨T, List.forall_mem_singleton.mpr here, ?_⟩, fun change => ?_⟩,
    ⟨⟨T, later, mapM_eq_ok_iff.mpr rest⟩, fun change => ?_⟩⟩
  · exact mapM_eq_ok_iff.mpr (.cons first .nil)
  · obtain ⟨ids, identified, _⟩ := distinct change
    obtain ⟨id, _, own, _, _⟩ := List.forall₂_cons_left_iff.mp (mapM_eq_ok_iff.mp identified)
    exact ⟨[id], mapM_eq_ok_iff.mpr (.cons own .nil), List.nodup_singleton id⟩
  · obtain ⟨ids, identified, distinct⟩ := distinct change
    obtain ⟨_, ids, _, others, rfl⟩ := List.forall₂_cons_left_iff.mp (mapM_eq_ok_iff.mp identified)
    exact ⟨ids, mapM_eq_ok_iff.mpr others, distinct.of_cons⟩

theorem oneByOne_sent (reachable : ∀ e ∈ entities, e.Reachable)
    (prepared : t.Prepares w (entities.map Entity.uncached) requests) (b : Backend) :
    (t.oneByOne w entities b).sent = send w requests (entities.map Entity.uncached) b := by
  induction entities generalizing requests b with
  | nil =>
    obtain ⟨T, _, requested⟩ := prepared.requests
    obtain rfl := pure_eq_ok_iff.mp requested
    rfl
  | cons e rest ih =>
    obtain ⟨here, later⟩ := List.forall_mem_cons.mp reachable
    obtain ⟨request, others, rfl, first, others⟩ := prepared.cons_left
    have alone := write_sent (List.forall_mem_singleton.mpr here) first b
    rw [List.map_cons]
    cases request with
    | none => rw [oneByOne_of_ok alone, ih later others, send_none]; rfl
    | some request =>
      cases given : w.row? b.next with
      | some row =>
        have alone := alone.trans (send_row given)
        rw [oneByOne_of_ok alone, send_row given, ← ih later others]
        rfl
      | none =>
        have alone := alone.trans (send_missing given)
        rw [oneByOne_of_error alone, send_missing given]
        rfl

/-! What each entity gets. -/

/-- The statements of the entities before a place are as many as the replies before its own. -/
def place (own : List (Option String)) (i : Nat) : Nat := (own.take i).reduceOption.length

/-- Each entity has a statement of its own or none, alone as well as in the batch. It adopts the row of the
reply in the place of its statement, unless a reply before it or its own gives no row. -/
structure Serves (t : Tenant) (w : Writing) (entities : List Entity) (own : List (Option String)) : Prop where
  alone : List.Forall₂ (fun e sql => t.Sends w [e] sql.toList) entities own
  together : t.Sends w entities own.reduceOption
  adopted : ∀ b i e sql, entities[i]? = some e → own[i]? = some (some sql) → place own i < w.answered b.queued →
    ∃ reply row e', b.queued[place own i]? = some reply ∧ w.row? reply = some row ∧
      (t.write w entities b).entities[i]? = some e' ∧ (e.applyRow row).Alike e' ∧ e'.dirty = []
  untouched : ∀ b i e, entities[i]? = some e → own[i]? = some none ∨ w.answered b.queued ≤ place own i →
    ∃ e', (t.write w entities b).entities[i]? = some e' ∧ e.Alike e'

/-- A statement that an entity has of its own is the one that it sends alone. -/
theorem Sends.eq_received {e : Entity} {sql : Option String} (sends : t.Sends w [e] sql.toList) :
    sql = (t.write w [e] ⟨[], []⟩).backend.received.head? := by
  rw [sends.received]
  cases sql <;> rfl

theorem Serves.own_eq {own : List (Option String)} (serves : t.Serves w entities own) :
    own = entities.map fun e => (t.write w [e] ⟨[], []⟩).backend.received.head? := by
  have same : List.Forall₂ (fun sql e => sql = (t.write w [e] ⟨[], []⟩).backend.received.head?) own entities :=
    (serves.alone.imp fun _ _ sends => Sends.eq_received sends).flip
  rwa [← List.forall₂_map_right_iff, List.forall₂_eq_eq_eq] at same

/-- The text of each request, in its place. -/
def ownTexts (requests : List (Option Request)) : List (Option String) :=
  requests.map fun request => request.map Request.sql

theorem statements_eq (requests : List (Option Request)) :
    Request.statements requests = (ownTexts requests).reduceOption := by
  change requests.filterMap (Option.map Request.sql) = (requests.map (Option.map Request.sql)).filterMap id
  rw [List.filterMap_map]
  rfl

theorem place_eq (requests : List (Option Request)) (i : Nat) :
    (Request.statements (requests.take i)).length = place (ownTexts requests) i := by
  rw [statements_eq, place, ownTexts, ownTexts, List.map_take]

theorem sends_alone (reachable : ∀ e ∈ entities, e.Reachable)
    (prepared : t.Prepares w (entities.map Entity.uncached) requests) :
    List.Forall₂ (fun e sql => t.Sends w [e] sql.toList) entities (ownTexts requests) := by
  induction entities generalizing requests with
  | nil =>
    obtain ⟨T, _, requested⟩ := prepared.requests
    obtain rfl := pure_eq_ok_iff.mp requested
    exact .nil
  | cons e rest ih =>
    obtain ⟨here, later⟩ := List.forall_mem_cons.mp reachable
    obtain ⟨request, others, rfl, first, others⟩ := prepared.cons_left
    have here : ∀ e' ∈ [e], e'.Reachable := List.forall_mem_singleton.mpr here
    have alone := sends_of_prepares here first
    refine .cons ?_ (ih later others)
    cases request <;> exact alone

theorem serves_of_prepares (reachable : ∀ e ∈ entities, e.Reachable)
    (prepared : t.Prepares w (entities.map Entity.uncached) requests) :
    t.Serves w entities (ownTexts requests) := by
  obtain ⟨T, _, requested⟩ := prepared.requests
  have paired := (mapM_eq_ok_iff.mp requested).length_eq.symm
  have outcome (b : Backend) (i : Nat) :
      (t.write w entities b).entities[i]?.map Entity.uncached =
        (send w requests (entities.map Entity.uncached) b).entities[i]? := by
    rw [← write_sent reachable prepared, ← List.getElem?_map]
    rfl
  have listed {i : Nat} {e : Entity} (there : entities[i]? = some e) :
      (entities.map Entity.uncached)[i]? = some e.uncached := by
    rw [List.getElem?_map, there]
    rfl
  have request {i : Nat} {sql : Option String} (there : (ownTexts requests)[i]? = some sql) :
      ∃ request, requests[i]? = some request ∧ request.map Request.sql = sql := by
    rwa [ownTexts, List.getElem?_map, Option.map_eq_some_iff] at there
  refine ⟨sends_alone reachable prepared, statements_eq requests ▸ sends_of_prepares reachable prepared, ?_, ?_⟩
  · intro b i e sql there sends before
    obtain ⟨entry, own, same⟩ := request sends
    obtain ⟨request, rfl, _⟩ := Option.map_eq_some_iff.mp same
    obtain ⟨reply, row, given, adopts, after⟩ :=
      (send_entities paired b (listed there)).1 request own (place_eq requests i ▸ before)
    rw [← outcome, Option.map_eq_some_iff] at after
    obtain ⟨e', found, same⟩ := after
    have alike : (e.applyRow row).Alike e' := Entity.alike_of_uncached_eq same
    exact ⟨reply, row, e', place_eq requests i ▸ given, adopts, found, alike, alike.dirty⟩
  · intro b i e there idle
    have idle : requests[i]? = some none ∨ w.answered b.queued ≤ (Request.statements (requests.take i)).length := by
      refine idle.imp (fun none => ?_) (fun late => place_eq requests i ▸ late)
      obtain ⟨entry, own, same⟩ := request none
      rw [own, Option.map_eq_none_iff.mp same]
    have after := (send_entities paired b (listed there)).2 idle
    rw [← outcome, Option.map_eq_some_iff] at after
    obtain ⟨e', found, same⟩ := after
    exact ⟨e', found, Entity.alike_of_uncached_eq same⟩

/-- A batch without a fault is the same as its entities one by one up to the first error. -/
theorem batch_eq_oneByOne (t : Tenant) (w : Writing) (entities : List Entity)
    (reachable : ∀ e ∈ entities, e.Reachable) (sound : ¬ t.Faulty entities w) :
    (∀ b, (t.oneByOne w entities b).Alike (t.write w entities b)) ∧ ∃ own, t.Serves w entities own := by
  obtain ⟨requests, prepared⟩ := prepares_of_sound reachable sound
  refine ⟨fun b => alike_of_sent_eq ?_, ownTexts requests, serves_of_prepares reachable prepared⟩
  rw [write_sent reachable prepared, oneByOne_sent reachable prepared]

/-- The second of three users has no changes and no statement, so the second reply is for the third. -/
theorem batch_eq_oneByOne_of_cleanBetween :
    ∃ (schema : Schema) (t : Tenant) (first second third : Entity),
      Schema.build ⟨"User", "users", none, "id", [{ name := "name", type := .string }]⟩ = .ok schema ∧
      t = ⟨⟨"o1", none, [⟨"users", none, [{ name := "id", type := "string" }, { name := "name", type := "string" }]⟩]⟩,
        "id"⟩ ∧
      (Entity.ofRow schema ⟨[("id", .string "US1o1aa00000001")]⟩).set (.name "name") (.string "Ann") = .ok first ∧
      second = .ofRow schema ⟨[("id", .string "US1o1aa00000002")]⟩ ∧
      (Entity.ofRow schema ⟨[("id", .string "US1o1aa00000003")]⟩).set (.name "name") (.string "Cy") = .ok third ∧
      (∀ b, (t.oneByOne .update [first, second, third] b).Alike (t.write .update [first, second, third] b)) ∧
      t.Serves .update [first, second, third]
        [some "UPDATE users SET name='Ann' WHERE (id='US1o1aa00000001') RETURNING id, name", none,
          some "UPDATE users SET name='Cy' WHERE (id='US1o1aa00000003') RETURNING id, name"] := by
  have pinned {t : Tenant} {entities : List Entity} {own : List (Option String)}
      (reachable : ∀ e ∈ entities, e.Reachable) (sound : ¬ t.Faulty entities .update)
      (alone : entities.map (fun e => (t.write .update [e] ⟨[], []⟩).backend.received.head?) = own) :
      (∀ b, (t.oneByOne .update entities b).Alike (t.write .update entities b)) ∧ t.Serves .update entities own := by
    obtain ⟨alike, own', serves⟩ := batch_eq_oneByOne t .update entities reachable sound
    obtain rfl : own' = own := serves.own_eq.trans alone
    exact ⟨alike, serves⟩
  refine ⟨_, _, _, _, _, rfl, rfl, rfl, rfl, rfl, pinned ?reachable
    (not_faulty_of_prepares ?reachable ⟨⟨_, List.forall_mem_cons.mpr ⟨⟨rfl, rfl⟩, ?listed⟩, rfl⟩,
      fun _ => ⟨_, rfl, by decide⟩⟩) rfl⟩
  case reachable =>
    refine List.forall_mem_cons.mpr ⟨?_, List.forall_mem_cons.mpr ⟨?_, List.forall_mem_singleton.mpr ?_⟩⟩
    · exact Entity.reachable_of_written ⟨[("id", .string "US1o1aa00000001")]⟩ "name" "Ann" rfl
    · exact Entity.reachable_ofRow ..
    · exact Entity.reachable_of_written ⟨[("id", .string "US1o1aa00000003")]⟩ "name" "Cy" rfl
  case listed => exact List.forall_mem_cons.mpr ⟨⟨rfl, rfl⟩, List.forall_mem_singleton.mpr ⟨rfl, rfl⟩⟩

end Tenant
end Tenancy
