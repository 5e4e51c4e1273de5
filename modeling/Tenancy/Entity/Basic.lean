import Tenancy.Query.Basic
import Tenancy.Schema.Basic

/-! Entities: single records with the values that callers have set and not yet sent. An entity keeps
the row it was loaded from, the values it has coerced so far, and the columns that were written, in
the order of their first writing. -/
namespace Tenancy

structure Entity where
  schema : Schema
  snapshot : Option Record := none
  /-- Values by column; an unset value is none. -/
  cache : OrderedMap (Option Value) := ∅
  dirty : List String := []

namespace Entity

def ofSchema (schema : Schema) : Entity := { schema }

def ofRow (schema : Schema) (row : Record) : Entity := { schema, snapshot := some row }

def addColumn (columns : List String) (column : String) : List String :=
  if column ∈ columns then columns else columns ++ [column]

/-- Writes a value that was coerced before. -/
def stage (e : Entity) (column : String) (value : Option Value) : Entity :=
  { e with cache := e.cache.insert column value, dirty := addColumn e.dirty column }

/-- Reads a value through the cache. A value of the snapshot is coerced at its first reading. -/
def get (e : Entity) (selector : Selector) : Checked (Option Value) × Entity :=
  match selector.resolve e.schema with
  | .error error => (.error error, e)
  | .ok f =>
    match e.cache.get? f.columnName with
    | some value => (.ok value, e)
    | none =>
      match e.snapshot.bind (·.get? f.columnName) with
      | none => (.ok none, e)
      | some raw =>
        match f.coerce (.ofJson raw) with
        | .error error => (.error error, e)
        | .ok value => (.ok value, { e with cache := e.cache.insert f.columnName value })

def set (e : Entity) (selector : Selector) (value : Value) : Checked Entity := do
  let f ← selector.resolve e.schema
  return e.stage f.columnName (← f.coerce value)

def setAll (e : Entity) : List (Selector × Value) → Checked Entity
  | [] => .ok e
  | (selector, value) :: rest => do setAll (← e.set selector value) rest

def ofValues (schema : Schema) (values : List (Selector × Value)) : Checked Entity :=
  (ofSchema schema).setAll values

def id? (e : Entity) : Checked (Option RecordId) × Entity :=
  match e.get (.field e.schema.idField) with
  | (.error error, e) => (.error error, e)
  | (.ok value, e) => (.ok (value.bind Value.asId?), e)

def isPersisted (e : Entity) : Bool × Entity :=
  match e.id? with
  | (.ok (some _), e) => (true, e)
  | (_, e) => (false, e)

def isDirty (e : Entity) (selector : Selector) : Checked Bool := do
  return decide ((← selector.resolve e.schema).columnName ∈ e.dirty)

def cachedJson (e : Entity) (column : String) : Json :=
  match e.cache.get? column with
  | some (some value) => value.toJson
  | _ => .null

/-- The columns that were written, with their values. -/
def dirtyRecord (e : Entity) : Record := ⟨e.dirty.map fun column => (column, e.cachedJson column)⟩

/-- The snapshot with the written columns in it. -/
def toRecord (e : Entity) : Record :=
  e.dirty.foldl (fun record column => record.insert column (e.cachedJson column))
    (e.snapshot.getD ∅)

/-- Takes a row as the new snapshot, and forgets all values before it. -/
def applyRow (e : Entity) (row : Record) : Entity := { schema := e.schema, snapshot := some row }

def insertRecord (e : Entity) : Checked Record × Entity :=
  match e.id? with
  | (.error error, e) => (.error error, e)
  | (.ok (some id), e) => (refuse .alreadyHasIdentifier (.insertWithId e.schema.name id), e)
  | (.ok none, e) => (.ok e.dirtyRecord, e)

def requireId (e : Entity) : Checked RecordId × Entity :=
  match e.id? with
  | (.error error, e) => (.error error, e)
  | (.ok (some id), e) => (.ok id, e)
  | (.ok none, e) => (refuse .missingIdentifier (.noId e.schema.name), e)

/-- The written columns but the identifier, for the record of the identifier. -/
def updateRecord (e : Entity) : Checked Query.Change × Entity :=
  match e.requireId with
  | (.error error, e) => (.error error, e)
  | (.ok id, e) =>
    let idField := e.schema.idField
    (.ok ⟨idField.equals (.id id), e.dirtyRecord.erase idField.columnName⟩, e)

def deleteRecord (e : Entity) : Checked Condition × Entity :=
  match e.requireId with
  | (.error error, e) => (.error error, e)
  | (.ok id, e) => (.ok (e.schema.idField.equals (.id id)), e)

end Entity
end Tenancy
