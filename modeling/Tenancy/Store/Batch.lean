import Tenancy.Store.Tenant

/-! Writing batches of entities. A batch is checked and compiled as a whole before its first
statement is sent. Then each entity takes the row that answers its own statement, up to the first
failure. -/
namespace Tenancy.Tenant

structure BatchOutcome where
  result : Checked Unit
  entities : List Entity
  backend : Backend

/-- Reads something of each entity, up to the first that fails. -/
def collect {α : Type} (read : Entity → Checked α × Entity) :
    List Entity → Checked (List α) × List Entity
  | [] => (.ok [], [])
  | e :: rest =>
    match read e with
    | (.error error, e) => (.error error, e :: rest)
    | (.ok value, e) =>
      match collect read rest with
      | (.error error, rest) => (.error error, e :: rest)
      | (.ok values, rest) => (.ok (value :: values), e :: rest)

/-- The identifiers of the entities, which are all different from each other and from those seen. -/
def collectIds : List RecordId → List Entity → Checked (List RecordId) × List Entity
  | _, [] => (.ok [], [])
  | seen, e :: rest =>
    match e.requireId with
    | (.error error, e) => (.error error, e :: rest)
    | (.ok id, e) =>
      if id ∈ seen then (refuse .duplicateRecord (.recordTwice id), e :: rest)
      else
        match collectIds (id :: seen) rest with
        | (.error error, rest) => (.error error, e :: rest)
        | (.ok ids, rest) => (.ok (id :: ids), e :: rest)

/-- The table of a batch; an empty batch has none. -/
def batchTable : List Entity → Checked (Option String)
  | [] => .ok none
  | first :: rest =>
    match rest.find? fun e => e.schema.table ≠ first.schema.table with
    | some other => refuse .invalidArgument (.mixedTables first.schema.table other.schema.table)
    | none => .ok (some first.schema.table)

/-- Sends inserts; each must answer with the one row it made. -/
def sendInserts (table : String) : List String → List Entity → Backend → BatchOutcome
  | sql :: statements, e :: rest, b =>
    match b.execute sql with
    | (.error error, b) => ⟨.error error, e :: rest, b⟩
    | (.ok [row], b) =>
      let outcome := sendInserts table statements rest b
      { outcome with entities := e.applyRow row :: outcome.entities }
    | (.ok rows, b) =>
      ⟨refuse .invalidResponse (.insertedRows table rows.length), e :: rest, b⟩
  | _, entities, b => ⟨.ok (), entities, b⟩

/-- Sends the statements of those entities that have one, each of which is named by its
identifier. -/
def sendChanges : List (Option RecordId) → List String → List Entity → Backend → BatchOutcome
  | none :: plans, statements, e :: rest, b =>
    let outcome := sendChanges plans statements rest b
    { outcome with entities := e :: outcome.entities }
  | some id :: plans, sql :: statements, e :: rest, b =>
    match b.execute sql with
    | (.error error, b) => ⟨.error error, e :: rest, b⟩
    | (.ok [], b) => ⟨refuse .recordNotFound (.notFound id), e :: rest, b⟩
    | (.ok (row :: _), b) =>
      let outcome := sendChanges plans statements rest b
      { outcome with entities := e.applyRow row :: outcome.entities }
  | _, _, entities, b => ⟨.ok (), entities, b⟩

def insert (t : Tenant) (entities : List Entity) (b : Backend) : BatchOutcome :=
  match batchTable entities with
  | .error error => ⟨.error error, entities, b⟩
  | .ok none => ⟨.ok (), entities, b⟩
  | .ok (some table) =>
    match collect Entity.insertRecord entities with
    | (.error error, entities) => ⟨.error error, entities, b⟩
    | (.ok records, entities) =>
      match t.compile (.insert ⟨table, records⟩) with
      | .error error => ⟨.error error, entities, b⟩
      | .ok statements => sendInserts table statements entities b

/-- Entities without changes are passed over. -/
def update (t : Tenant) (entities : List Entity) (b : Backend) : BatchOutcome :=
  match batchTable entities with
  | .error error => ⟨.error error, entities, b⟩
  | .ok none => ⟨.ok (), entities, b⟩
  | .ok (some table) =>
    match collectIds [] entities with
    | (.error error, entities) => ⟨.error error, entities, b⟩
    | (.ok ids, entities) =>
      match collect Entity.updateRecord entities with
      | (.error error, entities) => ⟨.error error, entities, b⟩
      | (.ok changes, entities) =>
        let changed := changes.filter fun change => !change.updates.isEmpty
        match t.compile (.update ⟨table, changed⟩) with
        | .error error => ⟨.error error, entities, b⟩
        | .ok statements =>
          let plans := List.zipWith
            (fun id (change : Query.Change) => if change.updates.isEmpty then none else some id)
            ids changes
          sendChanges plans statements entities b

def delete (t : Tenant) (entities : List Entity) (b : Backend) : BatchOutcome :=
  match batchTable entities with
  | .error error => ⟨.error error, entities, b⟩
  | .ok none => ⟨.ok (), entities, b⟩
  | .ok (some table) =>
    match collectIds [] entities with
    | (.error error, entities) => ⟨.error error, entities, b⟩
    | (.ok ids, entities) =>
      match collect Entity.deleteRecord entities with
      | (.error error, entities) => ⟨.error error, entities, b⟩
      | (.ok filters, entities) =>
        match t.compile (.delete ⟨table, filters⟩) with
        | .error error => ⟨.error error, entities, b⟩
        | .ok statements => sendChanges (ids.map some) statements entities b

end Tenancy.Tenant
