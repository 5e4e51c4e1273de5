import Mathlib.Data.Set.Basic
import Mathlib.Logic.Function.Basic
import Tenancy.Entity.Copy

/-! Runs of calls on named entities. What a call does to an entity is left open here, so that entities
can be set beside a simpler kind of them. What each operation keeps is kept by every run, and kinds that
agree in each operation agree in the answers of every run. -/
namespace Tenancy

/-- What can be asked of an entity. -/
inductive Question where
  | get (selector : Selector)
  | id
  | isPersisted
  | isDirty (selector : Selector)
  | dirtyColumns
  | dirtyRecord
  | record
  | snapshot
  | insertRecord
  | updateRecord
  | deleteRecord

inductive Answer where
  | done (result : Checked Unit)
  | value (result : Checked (Option Value))
  | id (result : Checked (Option RecordId))
  | flag (result : Checked Bool)
  | columns (names : List String)
  | snapshot (row : Option Record)
  | record (result : Checked Record)
  | change (result : Checked Query.Change)
  | filter (result : Checked Condition)
  /-- There is no entity of the name. -/
  | missing

inductive Call where
  | create (name : String) (schema : Schema)
  | load (name : String) (schema : Schema) (row : Record)
  | fill (name : String) (schema : Schema) (values : List (Selector × Value))
  | clone (name source : String)
  | set (name : String) (selector : Selector) (value : Value)
  | applyRow (name : String) (row : Record)
  | copy (name source : String) (onlyChanges : Bool)
  | ask (name : String) (question : Question)

/-- Schemas that a call gives to a new entity. -/
def Call.Uses (schemas : Set Schema) : Call → Prop
  | .create _ schema | .load _ schema _ | .fill _ schema _ => schema ∈ schemas
  | _ => True

theorem Call.uses_univ (call : Call) : call.Uses Set.univ := by cases call <;> trivial

structure EntityKind (ε : Type) where
  ofSchema : Schema → ε
  ofRow : Schema → Record → ε
  ofValues : Schema → List (Selector × Value) → Checked ε
  set : ε → Selector → Value → Checked ε
  applyRow : ε → Record → ε
  /-- How a copy ended, and its target and its source after it. -/
  copyFrom : ε → ε → Bool → Checked Unit × ε × ε
  ask : ε → Question → Answer × ε

namespace EntityKind

open Function (update)

variable {ε ε' : Type} {k : EntityKind ε} {k' : EntityKind ε'} {s : String → Option ε}

def step (k : EntityKind ε) (s : String → Option ε) : Call → Answer × (String → Option ε)
  | .create name schema => (.done (.ok ()), update s name (some (k.ofSchema schema)))
  | .load name schema row => (.done (.ok ()), update s name (some (k.ofRow schema row)))
  | .fill name schema values =>
    match k.ofValues schema values with
    | .ok e => (.done (.ok ()), update s name (some e))
    | .error error => (.done (.error error), s)
  | .clone name source =>
    match s source with
    | some e => (.done (.ok ()), update s name (some e))
    | none => (.missing, s)
  | .set name selector value =>
    match s name with
    | some e =>
      match k.set e selector value with
      | .ok e => (.done (.ok ()), update s name (some e))
      | .error error => (.done (.error error), s)
    | none => (.missing, s)
  | .applyRow name row =>
    match s name with
    | some e => (.done (.ok ()), update s name (some (k.applyRow e row)))
    | none => (.missing, s)
  | .copy name source onlyChanges =>
    match s name, s source with
    | some target, some origin =>
      let (result, target, origin) := k.copyFrom target origin onlyChanges
      (.done result, update (update s source (some origin)) name (some target))
    | _, _ => (.missing, s)
  | .ask name question =>
    match s name with
    | some e =>
      let (answer, e) := k.ask e question
      (answer, update s name (some e))
    | none => (.missing, s)

/-- The answers to calls in their order, and the entities after them. -/
def run (k : EntityKind ε) : (String → Option ε) → List Call → List Answer × (String → Option ε)
  | s, [] => ([], s)
  | s, call :: rest =>
    let (answer, s) := k.step s call
    let (answers, s) := k.run s rest
    (answer :: answers, s)

/-- The answers to calls where there is no entity before them. -/
def answers (k : EntityKind ε) (calls : List Call) : List Answer := (k.run (fun _ => none) calls).1

theorem run_cons (call : Call) (rest : List Call) :
    k.run s (call :: rest) =
      ((k.step s call).1 :: (k.run (k.step s call).2 rest).1, (k.run (k.step s call).2 rest).2) := rfl

theorem run_append (before after : List Call) :
    k.run s (before ++ after) =
      ((k.run s before).1 ++ (k.run (k.run s before).2 after).1, (k.run (k.run s before).2 after).2) := by
  induction before generalizing s with
  | nil => rfl
  | cons call rest ih => rw [List.cons_append, run_cons, ih, run_cons, List.cons_append]

theorem length_run (calls : List Call) : (k.run s calls).1.length = calls.length := by
  induction calls generalizing s with
  | nil => rfl
  | cons call rest ih => rw [run_cons, List.length_cons, ih, List.length_cons]

/-- All entities of a run have a property. -/
def All (P : ε → Prop) (s : String → Option ε) : Prop := ∀ name, ∀ e ∈ s name, P e

theorem All.update {P : ε → Prop} (all : All P s) (name : String) {e : ε} (holds : P e) :
    All P (update s name (some e)) := by
  intro other e' member
  rw [Function.update_apply] at member
  split at member
  · exact Option.some.inj member ▸ holds
  · exact all other e' member

/-- A property of entities that no operation breaks. -/
structure Keeps (k : EntityKind ε) (schemas : Set Schema) (P : ε → Prop) : Prop where
  ofSchema : ∀ schema ∈ schemas, P (k.ofSchema schema)
  ofRow : ∀ schema ∈ schemas, ∀ row, P (k.ofRow schema row)
  ofValues : ∀ schema ∈ schemas, ∀ values e, k.ofValues schema values = .ok e → P e
  set : ∀ e selector value e', P e → k.set e selector value = .ok e' → P e'
  applyRow : ∀ e row, P e → P (k.applyRow e row)
  copyFrom : ∀ target source onlyChanges, P target → P source →
    P (k.copyFrom target source onlyChanges).2.1 ∧ P (k.copyFrom target source onlyChanges).2.2
  ask : ∀ e question, P e → P (k.ask e question).2

theorem Keeps.step {schemas : Set Schema} {P : ε → Prop} (keeps : k.Keeps schemas P) {call : Call}
    (uses : call.Uses schemas) (all : All P s) : All P (k.step s call).2 := by
  cases call with
  | create name schema => exact all.update name (keeps.ofSchema schema uses)
  | load name schema row => exact all.update name (keeps.ofRow schema uses row)
  | fill name schema values =>
    rw [EntityKind.step]
    split
    · rename_i e filled
      exact all.update name (keeps.ofValues schema uses values e filled)
    · exact all
  | clone name source =>
    rw [EntityKind.step]
    split
    · rename_i e found
      exact all.update name (all source e found)
    · exact all
  | set name selector value =>
    rw [EntityKind.step]
    split
    · rename_i e found
      split
      · rename_i e' written
        exact all.update name (keeps.set e selector value e' (all name e found) written)
      · exact all
    · exact all
  | applyRow name row =>
    rw [EntityKind.step]
    split
    · rename_i e found
      exact all.update name (keeps.applyRow e row (all name e found))
    · exact all
  | copy name source onlyChanges =>
    rw [EntityKind.step]
    split
    · rename_i target origin foundTarget foundOrigin
      obtain ⟨keptTarget, keptOrigin⟩ :=
        keeps.copyFrom target origin onlyChanges (all name target foundTarget) (all source origin foundOrigin)
      exact (all.update source keptOrigin).update name keptTarget
    · exact all
  | ask name question =>
    rw [EntityKind.step]
    split
    · rename_i e found
      exact all.update name (keeps.ask e question (all name e found))
    · exact all

theorem Keeps.run {schemas : Set Schema} {P : ε → Prop} (keeps : k.Keeps schemas P) {calls : List Call}
    (uses : ∀ call ∈ calls, call.Uses schemas) (all : All P s) : All P (k.run s calls).2 := by
  induction calls generalizing s with
  | nil => exact all
  | cons call rest ih =>
    obtain ⟨first, others⟩ := List.forall_mem_cons.mp uses
    exact ih others (keeps.step first all)

/-- Entities of a property do what their images do in a second kind. -/
structure Simulates (k : EntityKind ε) (k' : EntityKind ε') (P : ε → Prop) (image : ε → ε') : Prop where
  keeps : k.Keeps Set.univ P
  ofSchema : ∀ schema, k'.ofSchema schema = image (k.ofSchema schema)
  ofRow : ∀ schema row, k'.ofRow schema row = image (k.ofRow schema row)
  ofValues : ∀ schema values, k'.ofValues schema values = (k.ofValues schema values).map image
  set : ∀ e selector value, P e → k'.set (image e) selector value = (k.set e selector value).map image
  applyRow : ∀ e row, k'.applyRow (image e) row = image (k.applyRow e row)
  copyFrom : ∀ target source onlyChanges, P target → P source →
    k'.copyFrom (image target) (image source) onlyChanges =
      ((k.copyFrom target source onlyChanges).1, image (k.copyFrom target source onlyChanges).2.1,
        image (k.copyFrom target source onlyChanges).2.2)
  ask : ∀ e question, P e → k'.ask (image e) question = ((k.ask e question).1, image (k.ask e question).2)

theorem map_update (image : ε → ε') (name : String) (e : ε) :
    Option.map image ∘ update s name (some e) = update (Option.map image ∘ s) name (some (image e)) :=
  Function.comp_update _ _ _ _

theorem Simulates.step {P : ε → Prop} {image : ε → ε'} (simulates : k.Simulates k' P image) (all : All P s)
    (call : Call) :
    k'.step (Option.map image ∘ s) call = ((k.step s call).1, Option.map image ∘ (k.step s call).2) := by
  cases call with
  | create name schema => rw [EntityKind.step, EntityKind.step, map_update, simulates.ofSchema]
  | load name schema row => rw [EntityKind.step, EntityKind.step, map_update, simulates.ofRow]
  | fill name schema values =>
    rw [EntityKind.step, EntityKind.step, simulates.ofValues]
    cases k.ofValues schema values with
    | ok e => rw [map_update]; rfl
    | error error => rfl
  | clone name source =>
    rw [EntityKind.step, EntityKind.step, Function.comp_apply]
    cases s source with
    | some e => rw [map_update]; rfl
    | none => rfl
  | set name selector value =>
    rw [EntityKind.step, EntityKind.step, Function.comp_apply]
    cases found : s name with
    | some e =>
      simp only [Option.map_some, simulates.set e selector value (all name e found)]
      cases k.set e selector value with
      | ok e => rw [map_update]; rfl
      | error error => rfl
    | none => rfl
  | applyRow name row =>
    rw [EntityKind.step, EntityKind.step, Function.comp_apply]
    cases s name with
    | some e => rw [map_update, ← simulates.applyRow]; rfl
    | none => rfl
  | copy name source onlyChanges =>
    rw [EntityKind.step, EntityKind.step, Function.comp_apply, Function.comp_apply]
    cases foundTarget : s name with
    | some target =>
      cases foundOrigin : s source with
      | some origin =>
        have copied := simulates.copyFrom target origin onlyChanges (all name target foundTarget)
          (all source origin foundOrigin)
        simp only [Option.map_some, copied, map_update]
      | none => rfl
    | none => rfl
  | ask name question =>
    rw [EntityKind.step, EntityKind.step, Function.comp_apply]
    cases found : s name with
    | some e => simp only [Option.map_some, simulates.ask e question (all name e found), map_update]
    | none => rfl

theorem Simulates.run {P : ε → Prop} {image : ε → ε'} (simulates : k.Simulates k' P image) (all : All P s)
    (calls : List Call) :
    k'.run (Option.map image ∘ s) calls = ((k.run s calls).1, Option.map image ∘ (k.run s calls).2) := by
  induction calls generalizing s with
  | nil => rfl
  | cons call rest ih =>
    rw [run_cons, run_cons, simulates.step all, ih (simulates.keeps.step call.uses_univ all)]

theorem Simulates.answers_eq {P : ε → Prop} {image : ε → ε'} (simulates : k.Simulates k' P image)
    (calls : List Call) : k.answers calls = k'.answers calls := by
  have none : All P fun _ => (none : Option ε) := fun _ _ member => nomatch member
  exact (congrArg Prod.fst (simulates.run none calls)).symm

/-- Where a question leaves an entity as it is, no other answer depends on its being asked. -/
theorem answers_without_question (pure : ∀ e question, (k.ask e question).2 = e) (before after : List Call)
    (name : String) (question : Question) :
    k.answers (before ++ after) = (k.answers (before ++ .ask name question :: after)).eraseIdx before.length := by
  have kept (s : String → Option ε) : (k.step s (.ask name question)).2 = s := by
    rw [step]
    split
    · rename_i e found
      simp only [pure, ← found, Function.update_eq_self]
    · rfl
  rw [answers, answers, run_append, run_append, run_cons, kept]
  have length := length_run (k := k) (s := fun _ => none) before
  rw [List.eraseIdx_append_of_length_le (by rw [length]), length, Nat.sub_self, List.eraseIdx_cons_zero]

end EntityKind

namespace Entity

def ask (e : Entity) : Question → Answer × Entity
  | .get selector => ((.value (e.get selector).1), (e.get selector).2)
  | .id => (.id e.id?.1, e.id?.2)
  | .isPersisted => (.flag (.ok e.isPersisted.1), e.isPersisted.2)
  | .isDirty selector => (.flag (e.isDirty selector), e)
  | .dirtyColumns => (.columns e.dirty, e)
  | .dirtyRecord => (.record (.ok e.dirtyRecord), e)
  | .record => (.record (.ok e.toRecord), e)
  | .snapshot => (.snapshot e.snapshot, e)
  | .insertRecord => (.record e.insertRecord.1, e.insertRecord.2)
  | .updateRecord => (.change e.updateRecord.1, e.updateRecord.2)
  | .deleteRecord => (.filter e.deleteRecord.1, e.deleteRecord.2)

/-- Entities as they are. -/
def kind : EntityKind Entity where
  ofSchema := ofSchema
  ofRow := ofRow
  ofValues := ofValues
  set := set
  applyRow := applyRow
  copyFrom target source onlyChanges :=
    let outcome := target.copyFrom source onlyChanges
    (outcome.result, outcome.target, outcome.source)
  ask := ask

/-! Questions change an entity only by reading a field. -/

theorem id?_after (e : Entity) : e.id?.2 = (e.get (.field e.schema.idField)).2 := by
  rw [id?]
  rcases e.get (.field e.schema.idField) with ⟨result, next⟩
  cases result <;> rfl

theorem isPersisted_after (e : Entity) : e.isPersisted.2 = e.id?.2 := by
  rw [isPersisted]
  rcases e.id? with ⟨result, next⟩
  cases result with
  | error error => rfl
  | ok id => cases id <;> rfl

theorem requireId_after (e : Entity) : e.requireId.2 = e.id?.2 := by
  rw [requireId]
  rcases e.id? with ⟨result, next⟩
  cases result with
  | error error => rfl
  | ok id => cases id <;> rfl

theorem insertRecord_after (e : Entity) : e.insertRecord.2 = e.id?.2 := by
  rw [insertRecord]
  rcases e.id? with ⟨result, next⟩
  cases result with
  | error error => rfl
  | ok id => cases id <;> rfl

theorem updateRecord_after (e : Entity) : e.updateRecord.2 = e.id?.2 := by
  rw [updateRecord, ← requireId_after]
  rcases e.requireId with ⟨result, next⟩
  cases result <;> rfl

theorem deleteRecord_after (e : Entity) : e.deleteRecord.2 = e.id?.2 := by
  rw [deleteRecord, ← requireId_after]
  rcases e.requireId with ⟨result, next⟩
  cases result <;> rfl

theorem ask_after (e : Entity) (question : Question) :
    (e.ask question).2 = e ∨ ∃ selector, (e.ask question).2 = (e.get selector).2 := by
  have id := e.id?_after
  cases question with
  | get selector => exact .inr ⟨selector, rfl⟩
  | id => exact .inr ⟨_, id⟩
  | isPersisted => exact .inr ⟨_, e.isPersisted_after.trans id⟩
  | insertRecord => exact .inr ⟨_, e.insertRecord_after.trans id⟩
  | updateRecord => exact .inr ⟨_, e.updateRecord_after.trans id⟩
  | deleteRecord => exact .inr ⟨_, e.deleteRecord_after.trans id⟩
  | _ => exact .inl rfl

end Entity
end Tenancy
