import Tenancy.Proofs.Entity.Calls
import Tenancy.Proofs.Entity.Columns
import Tenancy.Proofs.Schema.Fields

/-! Entities without a cache, and the invisibility of the cache. An entity that remembers what it has
read answers every call like one that keeps its row and the written values alone. -/
namespace Tenancy

structure Uncached where
  schema : Schema
  snapshot : Option Record := none
  /-- The written values by column, in the order of their first writing. -/
  staged : OrderedMap (Option Value) := ∅

namespace Uncached

def ofSchema (schema : Schema) : Uncached := { schema }

def ofRow (schema : Schema) (row : Record) : Uncached := { schema, snapshot := some row }

def get (u : Uncached) (selector : Selector) : Checked (Option Value) := do
  let f ← selector.resolve u.schema
  match u.staged.get? f.columnName with
  | some value => return value
  | none =>
    match u.snapshot.bind (·.get? f.columnName) with
    | some raw => f.coerce (.ofJson raw)
    | none => return none

def stage (u : Uncached) (column : String) (value : Option Value) : Uncached :=
  { u with staged := u.staged.insert column value }

def set (u : Uncached) (selector : Selector) (value : Value) : Checked Uncached := do
  let f ← selector.resolve u.schema
  return u.stage f.columnName (← f.coerce value)

def setAll (u : Uncached) : List (Selector × Value) → Checked Uncached
  | [] => .ok u
  | (selector, value) :: rest => do setAll (← u.set selector value) rest

def id? (u : Uncached) : Checked (Option RecordId) :=
  (u.get (.field u.schema.idField)).map fun value => value.bind Value.asId?

def isPersisted (u : Uncached) : Bool :=
  match u.id? with
  | .ok (some _) => true
  | _ => false

def isDirty (u : Uncached) (selector : Selector) : Checked Bool := do
  return decide ((← selector.resolve u.schema).columnName ∈ u.staged.keys)

def jsonOf (value : Option Value) : Json := (value.map Value.toJson).getD .null

def stagedRecord (u : Uncached) : Record := ⟨u.staged.entries.map fun entry => (entry.1, jsonOf entry.2)⟩

def toRecord (u : Uncached) : Record :=
  u.stagedRecord.entries.foldl (fun record entry => record.insert entry.1 entry.2) (u.snapshot.getD ∅)

def applyRow (u : Uncached) (row : Record) : Uncached := { schema := u.schema, snapshot := some row }

def copiedColumns (source : Uncached) (onlyChanges : Bool) : List String :=
  let loaded := if onlyChanges then [] else (source.snapshot.getD ∅).keys
  (loaded ++ source.staged.keys).foldl Entity.addColumn []

/-- Stages the values of the source column by column up to the first that cannot be read. -/
def copyColumns (idColumn : String) (source : Uncached) : List String → Uncached → Checked Unit × Uncached
  | [], target => (.ok (), target)
  | column :: rest, target =>
    if column = idColumn then copyColumns idColumn source rest target
    else
      match source.schema.fieldByColumn? column with
      | none => copyColumns idColumn source rest target
      | some f =>
        match source.get (.field f) with
        | .error error => (.error error, target)
        | .ok value => copyColumns idColumn source rest (target.stage column value)

def copyFrom (target source : Uncached) (onlyChanges : Bool) : Checked Unit × Uncached :=
  if target.schema.name = source.schema.name then
    copyColumns target.schema.idField.columnName source (source.copiedColumns onlyChanges) target
  else (refuse .invalidArgument (.copyAcross source.schema.name target.schema.name), target)

def insertRecord (u : Uncached) : Checked Record := do
  match ← u.id? with
  | some id => refuse .alreadyHasIdentifier (.insertWithId u.schema.name id)
  | none => return u.stagedRecord

def requireId (u : Uncached) : Checked RecordId := do
  match ← u.id? with
  | some id => return id
  | none => refuse .missingIdentifier (.noId u.schema.name)

def updateRecord (u : Uncached) : Checked Query.Change := do
  let idField := u.schema.idField
  return ⟨idField.equals (.id (← u.requireId)), u.stagedRecord.erase idField.columnName⟩

def deleteRecord (u : Uncached) : Checked Condition := do
  return u.schema.idField.equals (.id (← u.requireId))

def ask (u : Uncached) : Question → Answer
  | .get selector => .value (u.get selector)
  | .id => .id u.id?
  | .isPersisted => .flag (.ok u.isPersisted)
  | .isDirty selector => .flag (u.isDirty selector)
  | .dirtyColumns => .columns u.staged.keys
  | .dirtyRecord => .record (.ok u.stagedRecord)
  | .record => .record (.ok u.toRecord)
  | .snapshot => .snapshot u.snapshot
  | .insertRecord => .record u.insertRecord
  | .updateRecord => .change u.updateRecord
  | .deleteRecord => .filter u.deleteRecord

/-- Entities without a cache, which no question changes. -/
def kind : EntityKind Uncached where
  ofSchema := ofSchema
  ofRow := ofRow
  ofValues schema values := (ofSchema schema).setAll values
  set := set
  applyRow := applyRow
  copyFrom target source onlyChanges :=
    ((target.copyFrom source onlyChanges).1, (target.copyFrom source onlyChanges).2, source)
  ask u question := (u.ask question, u)

end Uncached

namespace Entity

/-- An entity without its cache. -/
def uncached (e : Entity) : Uncached :=
  ⟨e.schema, e.snapshot, ⟨e.dirty.map fun column => (column, (e.cache.get? column).join)⟩⟩

theorem uncached_schema (e : Entity) : e.uncached.schema = e.schema := rfl

/-- Written columns are cached, and other cached values are those of the snapshot. -/
structure Coherent (e : Entity) : Prop where
  distinct : e.dirty.Nodup
  staged : ∀ column ∈ e.dirty, ∃ value, e.cache.get? column = some value
  read : ∀ column value, e.cache.get? column = some value → column ∉ e.dirty →
    ∃ f ∈ e.schema.fields, f.columnName = column ∧
      ∃ raw, e.snapshot.bind (·.get? column) = some raw ∧ f.coerce (.ofJson raw) = .ok value

variable {e : Entity} {column : String} {value : Option Value}

theorem get?_uncached (e : Entity) (column : String) :
    e.uncached.staged.get? column = if column ∈ e.dirty then some (e.cache.get? column).join else none :=
  OrderedMap.find?_map_keys _ _ _

theorem Coherent.stage (coherent : e.Coherent) (column : String) (value : Option Value) :
    (e.stage column value).Coherent where
  distinct := nodup_addColumn coherent.distinct column
  staged := fun other written => by
    rw [Entity.stage, OrderedMap.get?_insert]
    split
    · exact ⟨value, rfl⟩
    · rename_i different
      exact coherent.staged other ((mem_addColumn.mp written).resolve_right different)
  read := fun other cached present clean => by
    have different : other ≠ column := fun same => clean (mem_addColumn.mpr (.inr same))
    rw [Entity.stage, OrderedMap.get?_insert, if_neg different] at present
    exact coherent.read other cached present fun written => clean (mem_addColumn.mpr (.inl written))

theorem uncached_stage (coherent : e.Coherent) (column : String) (value : Option Value) :
    (e.stage column value).uncached = e.uncached.stage column value := by
  have entries : (addColumn e.dirty column).map (fun c => (c, ((e.cache.insert column value).get? c).join)) =
      OrderedMap.put column value (e.dirty.map fun c => (c, (e.cache.get? c).join)) := by
    rw [OrderedMap.put_map_keys coherent.distinct]
    refine List.map_congr_left fun other _ => ?_
    rw [OrderedMap.get?_insert]
    split <;> rfl
  rw [uncached, Entity.stage, entries]
  rfl

/-- Reading a column of the snapshot writes nothing. -/
theorem uncached_remember (clean : column ∉ e.dirty) :
    uncached { e with cache := e.cache.insert column value } = e.uncached := by
  have entries : e.dirty.map (fun c => (c, ((e.cache.insert column value).get? c).join)) =
      e.dirty.map fun c => (c, (e.cache.get? c).join) := by
    refine List.map_congr_left fun other written => ?_
    have different : other ≠ column := fun same => clean (same ▸ written)
    rw [OrderedMap.get?_insert_ne _ different]
  rw [uncached, uncached, entries]

theorem Coherent.remember (coherent : e.Coherent) {f : Field} (member : f ∈ e.schema.fields) {raw : Json}
    (present : e.snapshot.bind (·.get? f.columnName) = some raw) (coerced : f.coerce (.ofJson raw) = .ok value) :
    Coherent { e with cache := e.cache.insert f.columnName value } where
  distinct := coherent.distinct
  staged := fun other written => by
    rw [OrderedMap.get?_insert]
    split
    · exact ⟨value, rfl⟩
    · exact coherent.staged other written
  read := fun other cached found clean => by
    rw [OrderedMap.get?_insert] at found
    split at found
    · rename_i same
      obtain rfl := Option.some.inj found
      exact ⟨f, member, same.symm, raw, same ▸ present, coerced⟩
    · exact coherent.read other cached found clean

/-- An outcome of reading an entity that leaves its written values and its row as they are. -/
structure Reads {α : Type} (e : Entity) (outcome : α × Entity) (result : α) : Prop where
  result_eq : outcome.1 = result
  uncached_eq : outcome.2.uncached = e.uncached
  coherent : outcome.2.Coherent

theorem Coherent.get (coherent : e.Coherent) (selector : Selector) :
    e.Reads (e.get selector) (e.uncached.get selector) := by
  cases resolved : selector.resolve e.schema with
  | error error =>
    have fails : e.uncached.get selector = .error error := by
      rw [Uncached.get, uncached, resolved, error_bind]
    rw [Entity.get, resolved, fails]
    exact ⟨rfl, rfl, coherent⟩
  | ok f =>
    have member := Schema.mem_of_resolve resolved
    have opened : e.uncached.get selector =
        match (if f.columnName ∈ e.dirty then some (e.cache.get? f.columnName).join else none) with
        | some value => .ok value
        | none =>
          match e.snapshot.bind (·.get? f.columnName) with
          | some raw => f.coerce (.ofJson raw)
          | none => .ok none := by
      rw [← get?_uncached, Uncached.get, uncached_schema, resolved, ok_bind]
      rfl
    rw [Entity.get, resolved, opened]
    dsimp only
    cases cached : e.cache.get? f.columnName with
    | some value =>
      by_cases written : f.columnName ∈ e.dirty
      · rw [if_pos written]
        exact ⟨rfl, rfl, coherent⟩
      · -- The value was read before, so the field still reads it from the snapshot.
        obtain ⟨g, other, same, raw, present, coerced⟩ := coherent.read _ _ cached written
        obtain rfl := Schema.eq_of_columnName_eq other member same
        rw [if_neg written, present]
        exact ⟨coerced.symm, rfl, coherent⟩
    | none =>
      have clean : f.columnName ∉ e.dirty := by
        intro written
        obtain ⟨value, present⟩ := coherent.staged _ written
        simp [cached] at present
      rw [if_neg clean]
      cases present : e.snapshot.bind (·.get? f.columnName) with
      | none => exact ⟨rfl, rfl, coherent⟩
      | some raw =>
        dsimp only
        cases coerced : f.coerce (.ofJson raw) with
        | error error => exact ⟨rfl, rfl, coherent⟩
        | ok value => exact ⟨rfl, uncached_remember clean, coherent.remember member present coerced⟩

/-! Every question but those for a value is answered by what the two kinds of entity share. -/

theorem dirty_eq (e : Entity) : e.dirty = e.uncached.staged.keys := by
  simp [uncached, OrderedMap.keys, Function.comp_def]

theorem cachedJson_eq (e : Entity) (column : String) :
    e.cachedJson column = Uncached.jsonOf (e.cache.get? column).join := by
  rw [cachedJson]
  cases e.cache.get? column with
  | none => rfl
  | some value => cases value <;> rfl

theorem dirtyRecord_eq (e : Entity) : e.dirtyRecord = e.uncached.stagedRecord := by
  simp [dirtyRecord, Uncached.stagedRecord, uncached, cachedJson_eq, Function.comp_def]

theorem toRecord_eq (e : Entity) : e.toRecord = e.uncached.toRecord := by
  rw [Uncached.toRecord, ← dirtyRecord_eq, dirtyRecord, List.foldl_map]
  rfl

theorem isDirty_eq (e : Entity) (selector : Selector) : e.isDirty selector = e.uncached.isDirty selector := by
  rw [isDirty, Uncached.isDirty, ← dirty_eq]
  rfl

theorem Coherent.id? (coherent : e.Coherent) : e.Reads e.id? e.uncached.id? := by
  obtain ⟨same, uncached, coherent⟩ := coherent.get (.field e.schema.idField)
  rw [Entity.id?, Uncached.id?, uncached_schema, ← same]
  rcases read : e.get (.field e.schema.idField) with ⟨result, next⟩
  rw [read] at uncached coherent
  cases result <;> exact ⟨rfl, uncached, coherent⟩

theorem Coherent.isPersisted (coherent : e.Coherent) : e.isPersisted.1 = e.uncached.isPersisted := by
  rw [Entity.isPersisted, Uncached.isPersisted, ← coherent.id?.result_eq]
  rcases e.id? with ⟨result, next⟩
  cases result with
  | error error => rfl
  | ok id => cases id <;> rfl

theorem Coherent.requireId (coherent : e.Coherent) : e.requireId.1 = e.uncached.requireId := by
  obtain ⟨same, uncached, _⟩ := coherent.id?
  rw [Entity.requireId, Uncached.requireId, ← same, ← uncached]
  rcases e.id? with ⟨result, next⟩
  cases result with
  | error error => rfl
  | ok id => cases id <;> rfl

theorem Coherent.insertRecord (coherent : e.Coherent) : e.insertRecord.1 = e.uncached.insertRecord := by
  obtain ⟨same, uncached, _⟩ := coherent.id?
  rw [Entity.insertRecord, Uncached.insertRecord, ← same, ← uncached]
  rcases e.id? with ⟨result, next⟩
  cases result with
  | error error => rfl
  | ok id =>
    cases id with
    | none => exact congrArg _ next.dirtyRecord_eq
    | some id => rfl

theorem uncached_requireId (coherent : e.Coherent) : e.requireId.2.uncached = e.uncached := by
  rw [requireId_after]
  exact coherent.id?.uncached_eq

theorem Coherent.updateRecord (coherent : e.Coherent) : e.updateRecord.1 = e.uncached.updateRecord := by
  rw [Entity.updateRecord, Uncached.updateRecord, ← coherent.requireId, ← uncached_requireId coherent]
  rcases e.requireId with ⟨result, next⟩
  cases result with
  | error error => rfl
  | ok id =>
    dsimp only
    rw [next.dirtyRecord_eq]
    rfl

theorem Coherent.deleteRecord (coherent : e.Coherent) : e.deleteRecord.1 = e.uncached.deleteRecord := by
  rw [Entity.deleteRecord, Uncached.deleteRecord, ← coherent.requireId, ← uncached_requireId coherent]
  rcases e.requireId with ⟨result, next⟩
  cases result <;> rfl

theorem Coherent.answer (coherent : e.Coherent) (question : Question) :
    (e.ask question).1 = e.uncached.ask question := by
  cases question with
  | get selector => exact congrArg Answer.value (coherent.get selector).result_eq
  | id => exact congrArg Answer.id coherent.id?.result_eq
  | isPersisted => exact congrArg (fun flag => Answer.flag (.ok flag)) coherent.isPersisted
  | isDirty selector => exact congrArg Answer.flag (e.isDirty_eq selector)
  | dirtyColumns => exact congrArg Answer.columns e.dirty_eq
  | dirtyRecord => exact congrArg (fun record => Answer.record (.ok record)) e.dirtyRecord_eq
  | record => exact congrArg (fun record => Answer.record (.ok record)) e.toRecord_eq
  | snapshot => rfl
  | insertRecord => exact congrArg Answer.record coherent.insertRecord
  | updateRecord => exact congrArg Answer.change coherent.updateRecord
  | deleteRecord => exact congrArg Answer.filter coherent.deleteRecord

theorem Coherent.ask (coherent : e.Coherent) (question : Question) :
    e.Reads (e.ask question) (e.uncached.ask question) := by
  have answer := coherent.answer question
  obtain same | ⟨selector, same⟩ := e.ask_after question
  · exact ⟨answer, congrArg uncached same, by rw [same]; exact coherent⟩
  · have reads := coherent.get selector
    exact ⟨answer, (congrArg uncached same).trans reads.uncached_eq, by rw [same]; exact reads.coherent⟩

/-! Writing and copying. -/

theorem coherent_of_clean (clean : e.dirty = []) (empty : e.cache = ∅) : e.Coherent where
  distinct := clean ▸ List.nodup_nil
  staged := fun column written => by simp [clean] at written
  read := fun column value present _ => by
    rw [empty] at present
    cases present

theorem coherent_of_set {e' : Entity} {selector : Selector} {value : Value} (coherent : e.Coherent)
    (written : e.set selector value = .ok e') : e'.Coherent := by
  simp only [Entity.set, bind_eq_ok_iff, pure_eq_ok_iff] at written
  obtain ⟨f, _, coerced, _, rfl⟩ := written
  exact coherent.stage f.columnName coerced

theorem set_uncached (coherent : e.Coherent) (selector : Selector) (value : Value) :
    e.uncached.set selector value = (e.set selector value).map uncached := by
  rw [Uncached.set, Entity.set, uncached_schema]
  cases selector.resolve e.schema with
  | error error => rfl
  | ok f =>
    rw [ok_bind, ok_bind]
    cases f.coerce value with
    | error error => rfl
    | ok coerced => exact congrArg _ (uncached_stage coherent f.columnName coerced).symm

theorem setAll_uncached (coherent : e.Coherent) (values : List (Selector × Value)) :
    e.uncached.setAll values = (e.setAll values).map uncached ∧
      ∀ e', e.setAll values = .ok e' → e'.Coherent := by
  induction values generalizing e with
  | nil => exact ⟨rfl, fun e' same => Except.ok.inj same ▸ coherent⟩
  | cons entry rest ih =>
    obtain ⟨selector, value⟩ := entry
    rw [Uncached.setAll, Entity.setAll, set_uncached coherent]
    cases written : e.set selector value with
    | error error => exact ⟨rfl, nofun⟩
    | ok next => exact ih (coherent_of_set coherent written)

/-- A copy between entities is the copy between them without their caches. -/
structure CopyOutcome.Mirrors (outcome : CopyOutcome) (source : Uncached) (mirror : Checked Unit × Uncached) :
    Prop where
  result_eq : mirror = (outcome.result, outcome.target.uncached)
  source_eq : outcome.source.uncached = source
  target : outcome.target.Coherent
  source : outcome.source.Coherent

theorem copyColumns_mirrors {target source : Entity} (idColumn : String) (columns : List String)
    (coherent : target.Coherent) (coherent' : source.Coherent) :
    (copyColumns idColumn columns target source).Mirrors source.uncached
      (Uncached.copyColumns idColumn source.uncached columns target.uncached) := by
  induction columns generalizing target source with
  | nil => exact ⟨rfl, rfl, coherent, coherent'⟩
  | cons column rest ih =>
    rw [copyColumns, Uncached.copyColumns, uncached_schema]
    split
    · exact ih coherent coherent'
    · cases source.schema.fieldByColumn? column with
      | none => exact ih coherent coherent'
      | some f =>
        dsimp only
        obtain ⟨same, uncached, coherent'⟩ := coherent'.get (.field f)
        rw [← same]
        rcases read : source.get (.field f) with ⟨result, next⟩
        rw [read] at uncached coherent'
        cases result with
        | error error => exact ⟨rfl, uncached, coherent, coherent'⟩
        | ok value =>
          have rest := ih (coherent.stage column value) coherent'
          rw [uncached_stage coherent, uncached] at rest
          exact rest

theorem copyFrom_mirrors {target source : Entity} (onlyChanges : Bool) (coherent : target.Coherent)
    (coherent' : source.Coherent) :
    (target.copyFrom source onlyChanges).Mirrors source.uncached
      (target.uncached.copyFrom source.uncached onlyChanges) := by
  have columns : source.copiedColumns onlyChanges = source.uncached.copiedColumns onlyChanges := by
    rw [copiedColumns, Uncached.copiedColumns, ← dirty_eq]
    rfl
  rw [copyFrom, Uncached.copyFrom, uncached_schema, uncached_schema]
  split
  · rw [columns]
    exact copyColumns_mirrors _ _ coherent coherent'
  · exact ⟨rfl, rfl, coherent, coherent'⟩

theorem keeps_coherent : kind.Keeps Set.univ Coherent where
  ofSchema := fun _ _ => coherent_of_clean rfl rfl
  ofRow := fun _ _ _ => coherent_of_clean rfl rfl
  ofValues := fun _ _ values => (setAll_uncached (coherent_of_clean rfl rfl) values).2
  set := fun _ _ _ _ => coherent_of_set
  applyRow := fun _ _ _ => coherent_of_clean rfl rfl
  copyFrom := fun _ _ onlyChanges coherent coherent' =>
    let mirrors := copyFrom_mirrors onlyChanges coherent coherent'
    ⟨mirrors.target, mirrors.source⟩
  ask := fun _ question coherent => (coherent.ask question).coherent

theorem simulates_uncached : kind.Simulates Uncached.kind Coherent uncached where
  keeps := keeps_coherent
  ofSchema := fun _ => rfl
  ofRow := fun _ _ => rfl
  ofValues := fun schema values => (setAll_uncached (e := ofSchema schema) (coherent_of_clean rfl rfl) values).1
  set := fun _ selector value coherent => set_uncached coherent selector value
  applyRow := fun _ _ => rfl
  copyFrom := fun target source onlyChanges coherent coherent' => by
    have mirrors := copyFrom_mirrors onlyChanges coherent coherent'
    obtain ⟨result, target'⟩ := Prod.mk.inj mirrors.result_eq
    exact Prod.ext result (Prod.ext target' mirrors.source_eq.symm)
  ask := fun _ question coherent =>
    have reads := coherent.ask question
    Prod.ext reads.result_eq.symm reads.uncached_eq.symm

/-- The cache cannot be seen: entities answer all calls as they would without it, and whether a question
was asked before makes no difference to any other answer. -/
theorem cache_invisible :
    (∀ calls, kind.answers calls = Uncached.kind.answers calls) ∧
    ∀ (before after : List Call) (name : String) (question : Question),
      kind.answers (before ++ after) =
        (kind.answers (before ++ .ask name question :: after)).eraseIdx before.length := by
  have same := simulates_uncached.answers_eq
  refine ⟨same, fun before after name question => ?_⟩
  rw [same, same]
  exact EntityKind.answers_without_question (fun _ _ => rfl) before after name question

end Entity
end Tenancy
