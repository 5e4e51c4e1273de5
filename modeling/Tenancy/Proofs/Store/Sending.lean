import Tenancy.Proofs.Entity.Reachable
import Tenancy.Store.Batch

/-! Sending the statements of a batch. Entities are taken without their caches here, and each of them has
a statement or none. The replies alone decide how many statements are received, and which entities adopt
which rows: every entity before the first reply without a row for it adopts its own row, and nothing
happens to the others. -/
namespace Tenancy

/-- The ways in which a batch is written. -/
inductive Writing where
  | insert
  | update
  | delete
deriving DecidableEq

namespace Writing

/-- The row that a reply gives to an entity: the only one for an insert, and else the first. -/
def row? : Writing → Reply → Option Record
  | .insert, .rows [row] => some row
  | .insert, _ => none
  | _, .rows (row :: _) => some row
  | _, _ => none

/-- How many replies give a row before the first that does not. -/
def answered (w : Writing) (replies : List Reply) : Nat :=
  (replies.takeWhile fun reply => (w.row? reply).isSome).length

end Writing

namespace Backend

/-- What the next statement is answered with. -/
def next (b : Backend) : Reply := b.queued.headD (.rows [])

def after (b : Backend) (sql : String) : Backend := ⟨b.queued.tail, b.received ++ [sql]⟩

variable {w : Writing} {b : Backend}

theorem execute_eq (b : Backend) (sql : String) :
    b.execute sql =
      match b.next with
      | .rows rows => (.ok rows, b.after sql)
      | .failure error => (.error error, b.after sql) := by
  rcases b with ⟨queued, received⟩
  cases queued with
  | nil => rfl
  | cons reply queued => cases reply <;> rfl

theorem answered_of_row {row : Record} (given : w.row? b.next = some row) :
    ∃ queued, b.queued = b.next :: queued ∧ w.answered b.queued = w.answered queued + 1 := by
  rcases b with ⟨queued, received⟩
  cases queued with
  | nil => cases w <;> cases given
  | cons reply queued =>
    have given : w.row? reply = some row := given
    refine ⟨queued, rfl, ?_⟩
    simp [Writing.answered, given]

theorem answered_of_none (missing : w.row? b.next = none) : w.answered b.queued = 0 := by
  rcases b with ⟨queued, received⟩
  cases queued with
  | nil => rfl
  | cons reply queued =>
    have missing : w.row? reply = none := missing
    simp [Writing.answered, missing]

end Backend

/-- A statement, and the error that rows are which do not answer it. -/
structure Request where
  sql : String
  complaint : List Record → DataError

namespace Request

def fault (request : Request) : Reply → DataError
  | .rows rows => request.complaint rows
  | .failure error => error

/-- The statements of entities that have one. -/
def statements (requests : List (Option Request)) : List String := requests.filterMap fun request => request.map sql

@[simp] theorem statements_nil : statements [] = [] := rfl

@[simp] theorem statements_none (requests : List (Option Request)) :
    statements (none :: requests) = statements requests := rfl

@[simp] theorem statements_some (request : Request) (requests : List (Option Request)) :
    statements (some request :: requests) = request.sql :: statements requests := rfl

end Request

/-- The outcome of a batch but for the caches of its entities. -/
structure Sent where
  result : Checked Unit
  entities : List Uncached
  backend : Backend

def Tenant.BatchOutcome.sent (outcome : Tenant.BatchOutcome) : Sent :=
  ⟨outcome.result, outcome.entities.map Entity.uncached, outcome.backend⟩

/-- Sends the statements of those entities that have one. -/
def send (w : Writing) : List (Option Request) → List Uncached → Backend → Sent
  | none :: requests, u :: rest, b =>
    let sent := send w requests rest b
    { sent with entities := u :: sent.entities }
  | some request :: requests, u :: rest, b =>
    match w.row? b.next with
    | some row =>
      let sent := send w requests rest (b.after request.sql)
      { sent with entities := u.applyRow row :: sent.entities }
    | none => ⟨.error (request.fault b.next), u :: rest, b.after request.sql⟩
  | _, entities, b => ⟨.ok (), entities, b⟩

section

variable {w : Writing} {request : Request} {requests : List (Option Request)} {u : Uncached} {rest : List Uncached}
  {b : Backend}

theorem send_none : send w (none :: requests) (u :: rest) b =
    ⟨(send w requests rest b).result, u :: (send w requests rest b).entities, (send w requests rest b).backend⟩ := rfl

theorem send_row {row : Record} (given : w.row? b.next = some row) :
    send w (some request :: requests) (u :: rest) b =
      ⟨(send w requests rest (b.after request.sql)).result,
        u.applyRow row :: (send w requests rest (b.after request.sql)).entities,
        (send w requests rest (b.after request.sql)).backend⟩ := by
  rw [send, given]

theorem send_missing (missing : w.row? b.next = none) :
    send w (some request :: requests) (u :: rest) b =
      ⟨.error (request.fault b.next), u :: rest, b.after request.sql⟩ := by
  rw [send, missing]

end

/-! Both ways in which a tenant sends the statements of a batch. -/

def Request.ofInsert (table sql : String) : Request :=
  ⟨sql, fun rows => ⟨.invalidResponse, .insertedRows table rows.length⟩⟩

def Request.ofChange (id : RecordId) (sql : String) : Request := ⟨sql, fun _ => ⟨.recordNotFound, .notFound id⟩⟩

/-- The statements of changes, in the places of the entities that have one. -/
def changeRequests : List (Option RecordId) → List String → List (Option Request)
  | none :: plans, statements => none :: changeRequests plans statements
  | some id :: plans, sql :: statements => some (.ofChange id sql) :: changeRequests plans statements
  | _, _ => []

namespace Tenant

theorem sendInserts_sent (table : String) (statements : List String) (entities : List Entity) (b : Backend) :
    (sendInserts table statements entities b).sent =
      send .insert (statements.map fun sql => some (.ofInsert table sql)) (entities.map Entity.uncached) b := by
  induction statements generalizing entities b with
  | nil => rfl
  | cons sql statements ih =>
    cases entities with
    | nil => rfl
    | cons e rest =>
      rw [sendInserts, Backend.execute_eq, List.map_cons, List.map_cons, send]
      have rest := ih rest (b.after sql)
      rcases b.next with ⟨_ | ⟨row, _ | ⟨_, _⟩⟩⟩ | error
      · rfl
      · exact congrArg (fun sent : Sent => { sent with entities := e.uncached.applyRow row :: sent.entities }) rest
      · rfl
      · rfl

theorem sendChanges_sent {w : Writing} (change : w ≠ .insert) (plans : List (Option RecordId))
    (statements : List String) (entities : List Entity) (b : Backend) :
    (sendChanges plans statements entities b).sent =
      send w (changeRequests plans statements) (entities.map Entity.uncached) b := by
  have first (row : Record) (rows : List Record) : w.row? (.rows (row :: rows)) = some row := by
    cases w <;> first | rfl | exact absurd rfl change
  have missing : w.row? (.rows []) = none := by cases w <;> rfl
  have failed (error : DataError) : w.row? (.failure error) = none := by cases w <;> rfl
  induction plans generalizing statements entities b with
  | nil => rfl
  | cons plan plans ih =>
    cases plan with
    | none =>
      cases entities with
      | nil => rfl
      | cons e rest =>
        exact congrArg (fun sent : Sent => { sent with entities := e.uncached :: sent.entities })
          (ih statements rest b)
    | some id =>
      cases statements with
      | nil => rfl
      | cons sql statements =>
        cases entities with
        | nil => rfl
        | cons e rest =>
          rw [sendChanges, Backend.execute_eq, List.map_cons, changeRequests, send]
          have rest := ih statements rest (b.after sql)
          rcases b.next with ⟨_ | ⟨row, rows⟩⟩ | error
          · rw [missing]
            rfl
          · rw [first]
            exact congrArg (fun sent : Sent => { sent with entities := e.uncached.applyRow row :: sent.entities }) rest
          · rw [failed]
            rfl

end Tenant

/-! What is received, and how it ends. -/

section

open Request (statements)

variable {w : Writing} {requests : List (Option Request)} {entities : List Uncached}

theorem send_backend (paired : requests.length = entities.length) (b : Backend) :
    (send w requests entities b).backend =
      ⟨b.queued.drop ((statements requests).take (w.answered b.queued + 1)).length,
        b.received ++ (statements requests).take (w.answered b.queued + 1)⟩ := by
  induction requests generalizing entities b with
  | nil => simp [send]
  | cons request requests ih =>
    obtain ⟨u, rest, rfl⟩ := List.exists_cons_of_length_eq_add_one paired.symm
    have others : requests.length = rest.length := Nat.succ.inj paired
    cases request with
    | none => exact ih others b
    | some request =>
      cases given : w.row? b.next with
      | some row =>
        obtain ⟨queued, same, answered⟩ := Backend.answered_of_row given
        rw [send_row given, ih others, answered, Backend.after, same]
        simp
      | none =>
        rw [send_missing given, Backend.answered_of_none given, Backend.after]
        simp

theorem send_result (paired : requests.length = entities.length) (b : Backend) :
    (send w requests entities b).result = .ok () ↔ (statements requests).length ≤ w.answered b.queued := by
  induction requests generalizing entities b with
  | nil => simp [send]
  | cons request requests ih =>
    obtain ⟨u, rest, rfl⟩ := List.exists_cons_of_length_eq_add_one paired.symm
    have others : requests.length = rest.length := Nat.succ.inj paired
    cases request with
    | none => exact ih others b
    | some request =>
      cases given : w.row? b.next with
      | some row =>
        obtain ⟨queued, same, answered⟩ := Backend.answered_of_row given
        have tail : (b.after request.sql).queued = queued := congrArg List.tail same
        rw [send_row given, ih others, answered, tail]
        simp
      | none =>
        rw [send_missing given, Backend.answered_of_none given]
        simp

/-- An entity adopts the row of its own statement, which is the reply in the place of the statement,
and stays as it is without a statement or from the first reply on that gives no row. -/
theorem send_entities (paired : requests.length = entities.length) (b : Backend) {i : Nat} {u : Uncached}
    (member : entities[i]? = some u) :
    (∀ request, requests[i]? = some (some request) →
      (statements (requests.take i)).length < w.answered b.queued →
      ∃ reply row, b.queued[(statements (requests.take i)).length]? = some reply ∧ w.row? reply = some row ∧
        (send w requests entities b).entities[i]? = some (u.applyRow row)) ∧
    (requests[i]? = some none ∨ w.answered b.queued ≤ (statements (requests.take i)).length →
      (send w requests entities b).entities[i]? = some u) := by
  induction requests generalizing entities b i with
  | nil =>
    have empty : entities = [] := List.eq_nil_of_length_eq_zero paired.symm
    simp [empty] at member
  | cons request requests ih =>
    obtain ⟨first, rest, rfl⟩ := List.exists_cons_of_length_eq_add_one paired.symm
    have others : requests.length = rest.length := Nat.succ.inj paired
    cases request with
    | none =>
      rw [send_none]
      cases i with
      | zero => simpa using member
      | succ i => simpa using ih others b (by simpa using member)
    | some request =>
      cases given : w.row? b.next with
      | some row =>
        obtain ⟨queued, same, answered⟩ := Backend.answered_of_row given
        have tail : (b.after request.sql).queued = queued := congrArg List.tail same
        rw [send_row given, answered]
        cases i with
        | zero =>
          obtain rfl : first = u := by simpa using member
          have reply : b.queued[0]? = some b.next := by rw [same]; rfl
          refine ⟨fun _ _ _ => ⟨b.next, row, reply, given, rfl⟩, ?_⟩
          simp
        | succ i =>
          have rest := ih others (b.after request.sql) (by simpa using member)
          rw [tail] at rest
          have later (n : Nat) : b.queued[n + 1]? = queued[n]? := by rw [same]; rfl
          simpa [later] using rest
      | none =>
        rw [send_missing given, Backend.answered_of_none given]
        exact ⟨fun _ _ before => absurd before (Nat.not_lt_zero _), fun _ => member⟩

end

end Tenancy
