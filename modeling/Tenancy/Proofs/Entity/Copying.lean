import Mathlib.Data.List.TakeWhile
import Tenancy.Proofs.Entity.Reachable
import Tenancy.Proofs.FirstPlaces

/-! What a copy does to its target and its source. A copy stages the columns of its source one after the
other, and stops at the first that cannot be read. So a copy that succeeds hands over all columns in their
order, and one that fails leaves those before the unreadable one behind in the target. -/
namespace Tenancy

/-- The columns that are copied from a schema: those that it declares, but for the identifier of the target. -/
def Schema.copied (s : Schema) (idColumn : String) (columns : List String) : List String :=
  columns.filter fun column => column ≠ idColumn ∧ column ∈ s.columns

namespace Uncached

/-- The value of a column, which is unset where the schema declares no field of it. -/
def column (u : Uncached) (name : String) : Checked (Option Value) :=
  match u.schema.fieldByColumn? name with
  | some f => u.get (.field f)
  | none => .ok none

/-- Stages the columns of a source, those that cannot be read as unset. -/
def takeOver (target source : Uncached) (columns : List String) : Uncached :=
  columns.foldl (fun u name => u.stage name (source.column name).toOption.join) target

variable {target source : Uncached}

theorem takeOver_cons (first : String) (rest : List String) :
    target.takeOver source (first :: rest) =
      (target.stage first (source.column first).toOption.join).takeOver source rest := rfl

theorem takeOver_schema (columns : List String) : (target.takeOver source columns).schema = target.schema := by
  induction columns generalizing target with
  | nil => rfl
  | cons first rest ih => exact ih

theorem takeOver_snapshot (columns : List String) :
    (target.takeOver source columns).snapshot = target.snapshot := by
  induction columns generalizing target with
  | nil => rfl
  | cons first rest ih => exact ih

theorem get?_takeOver (target source : Uncached) (columns : List String) (name : String) :
    (target.takeOver source columns).staged.get? name =
      if name ∈ columns then some (source.column name).toOption.join else target.staged.get? name := by
  induction columns generalizing target with
  | nil => simp [takeOver]
  | cons first rest ih =>
    rw [takeOver_cons, ih, stage, OrderedMap.get?_insert]
    by_cases later : name ∈ rest
    · simp [later]
    · by_cases same : name = first <;> simp [later, same]

theorem keys_takeOver (columns : List String) :
    (target.takeOver source columns).staged.keys =
      target.staged.keys ++ columns.eraseDups.filter (· ∉ target.staged.keys) := by
  have added : (target.takeOver source columns).staged.keys =
      columns.foldl Entity.addColumn target.staged.keys := by
    induction columns generalizing target with
    | nil => rfl
    | cons first rest ih =>
      rw [List.foldl_cons, ← OrderedMap.keys_insert]
      exact ih
  rw [added]
  exact foldl_add_unless_known _ _

theorem takeOver_eq_self {columns : List String}
    (staged : ∀ name ∈ columns, target.staged.get? name = some (source.column name).toOption.join) :
    target.takeOver source columns = target := by
  induction columns with
  | nil => rfl
  | cons first rest ih =>
    obtain ⟨same, others⟩ := List.forall_mem_cons.mp staged
    have kept : target.stage first (source.column first).toOption.join = target := by
      rw [stage, OrderedMap.insert_eq_self same]
    rw [takeOver_cons, kept, ih others]

theorem get_of_staged {u : Uncached} {selector : Selector} {f : Field} {value : Option Value}
    (resolved : selector.resolve u.schema = .ok f) (staged : u.staged.get? f.columnName = some value) :
    u.get selector = .ok value := by
  rw [get, resolved, ok_bind, staged]
  rfl

/-- What is read of a column depends on its staged value and on the row. -/
theorem get_eq_of_staged {u u' : Uncached} {selector : Selector} (schema : u'.schema = u.schema)
    (snapshot : u'.snapshot = u.snapshot) (staged : ∀ f, selector.resolve u.schema = .ok f →
      u'.staged.get? f.columnName = u.staged.get? f.columnName) : u'.get selector = u.get selector := by
  rw [get, get, schema, snapshot]
  cases resolved : selector.resolve u.schema with
  | error error => rfl
  | ok f => rw [ok_bind, ok_bind, staged f resolved]

theorem get_eq_column {u : Uncached} {selector : Selector} {f : Field}
    (resolved : selector.resolve u.schema = .ok f) : u.get selector = u.column f.columnName := by
  have member := Schema.mem_of_resolve resolved
  rw [column, Schema.fieldByColumn?_of_mem member]
  dsimp only
  rw [get, get, resolved, Schema.resolve_field member]

/-- A copy takes over the columns before the first one that cannot be read, and fails just where there is
such a column. -/
theorem copyColumns_eq (idColumn : String) (columns : List String) :
    copyColumns idColumn source columns target =
      (((source.schema.copied idColumn columns).mapM source.column).map fun _ => (),
        target.takeOver source
          ((source.schema.copied idColumn columns).takeWhile fun name => (source.column name).isOk)) := by
  induction columns generalizing target with
  | nil => rfl
  | cons first rest ih =>
    rw [copyColumns]
    -- The identifier and columns without a field are passed over, and an unreadable column ends the copy.
    by_cases identifier : first = idColumn
    · rw [if_pos identifier, ih]
      simp [Schema.copied, identifier]
    · rw [if_neg identifier]
      cases found : source.schema.fieldByColumn? first with
      | none =>
        have undeclared : first ∉ source.schema.columns := by
          rw [← Schema.exists_fieldByColumn?_iff, found]
          simp
        dsimp only
        rw [ih]
        simp [Schema.copied, undeclared]
      | some f =>
        have declared : first ∈ source.schema.columns := Schema.exists_fieldByColumn?_iff.mp ⟨f, found⟩
        have copied : source.schema.copied idColumn (first :: rest) =
            first :: source.schema.copied idColumn rest := by simp [Schema.copied, identifier, declared]
        have read : source.column first = source.get (.field f) := by simp [column, found]
        dsimp only
        rw [copied, List.mapM_cons, List.takeWhile_cons]
        cases result : source.get (.field f) with
        | error error =>
          rw [read, result]
          rfl
        | ok value =>
          have opened := read.trans result
          have readable : (source.column first).isOk = true := by
            rw [opened]
            rfl
          dsimp only
          rw [ih, if_pos readable, takeOver_cons, opened, ok_bind]
          cases (source.schema.copied idColumn rest).mapM source.column <;> rfl

end Uncached

namespace Entity

/-- The value of a column, which is unset where the schema declares no field of it. -/
def column (e : Entity) (name : String) : Checked (Option Value) :=
  match e.schema.fieldByColumn? name with
  | some f => (e.get (.field f)).1
  | none => .ok none

/-- The columns that a copy hands over, in their order: those of the row, unless only changes are wanted, and
then the written ones. -/
def handedOver (source : Entity) (idColumn : String) (onlyChanges : Bool) : List String :=
  source.schema.copied idColumn
    ((if onlyChanges then [] else (source.snapshot.getD ∅).keys) ++ source.dirty).eraseDups

/-- An entity that cannot be told from an earlier one. What it remembers of its row may differ. -/
structure Unchanged (e e' : Entity) : Prop extends Alike e e' where
  get : ∀ selector, (e'.get selector).1 = (e.get selector).1

/-- What a copy that hands over columns leaves of its target and its source. -/
structure HandsOver (columns : List String) (target source target' source' : Entity) : Prop where
  copied : ∀ selector f, selector.resolve target.schema = .ok f → f.columnName ∈ columns →
    ∃ value, (source.get selector).1 = .ok value ∧ (target'.get selector).1 = .ok value
  others : ∀ selector, (∀ f, selector.resolve target.schema = .ok f → f.columnName ∉ columns) →
    (target'.get selector).1 = (target.get selector).1
  id : target'.id?.1 = target.id?.1
  schema : target'.schema = target.schema
  snapshot : target'.snapshot = target.snapshot
  dirty : target'.dirty = target.dirty ++ columns.filter (· ∉ target.dirty)
  distinct : target'.dirty.Nodup
  /-- Also columns that are written without a field of the schema keep their values. -/
  dirtyRecord : ∀ column ∉ columns, target'.dirtyRecord.get? column = target.dirtyRecord.get? column
  source : source.Unchanged source'

variable {e e' target source : Entity}

theorem Coherent.column (coherent : e.Coherent) (name : String) : e.column name = e.uncached.column name := by
  unfold Entity.column Uncached.column
  rw [uncached_schema]
  cases e.schema.fieldByColumn? name with
  | none => rfl
  | some f => exact (coherent.get (.field f)).result_eq

theorem unchanged_of_uncached_eq (coherent : e.Coherent) (coherent' : e'.Coherent)
    (same : e'.uncached = e.uncached) : e.Unchanged e' where
  __ := alike_of_uncached_eq same
  get := fun selector => by rw [(coherent'.get selector).result_eq, same, ← (coherent.get selector).result_eq]

theorem copiedColumns_eq (source : Entity) (onlyChanges : Bool) :
    source.copiedColumns onlyChanges =
      ((if onlyChanges then [] else (source.snapshot.getD ∅).keys) ++ source.dirty).eraseDups := by
  refine (foldl_add_unless_known [] _).trans ?_
  simp

theorem nodup_handedOver (source : Entity) (idColumn : String) (onlyChanges : Bool) :
    (source.handedOver idColumn onlyChanges).Nodup :=
  (nodup_eraseDups _).filter _

theorem mem_handedOver_iff {idColumn column : String} {onlyChanges : Bool} :
    column ∈ source.handedOver idColumn onlyChanges ↔ column ≠ idColumn ∧ column ∈ source.schema.columns ∧
      (onlyChanges = false ∧ column ∈ (source.snapshot.getD ∅).keys ∨ column ∈ source.dirty) := by
  cases onlyChanges <;> simp [handedOver, Schema.copied, and_comm, and_left_comm]

/-- The end of a copy between entities of one name, as their rows and written values tell it. -/
structure CopyOutcome.Takes (outcome : CopyOutcome) (target source : Entity) (columns : List String) : Prop where
  result : outcome.result = (columns.mapM source.column).map fun _ => ()
  target : outcome.target.uncached =
    target.uncached.takeOver source.uncached (columns.takeWhile fun name => (source.column name).isOk)
  source : outcome.source.uncached = source.uncached
  coherent : outcome.target.Coherent
  coherent' : outcome.source.Coherent

theorem copyFrom_takes (coherent : target.Coherent) (coherent' : source.Coherent) (onlyChanges : Bool)
    (same : target.schema.name = source.schema.name) :
    (target.copyFrom source onlyChanges).Takes target source
      (source.handedOver target.schema.idColumn onlyChanges) := by
  have mirrors := copyFrom_mirrors onlyChanges coherent coherent'
  have columns : source.uncached.copiedColumns onlyChanges = source.copiedColumns onlyChanges := by
    rw [copiedColumns, Uncached.copiedColumns, ← dirty_eq]
    rfl
  have read : source.column = source.uncached.column := funext coherent'.column
  have opened := mirrors.result_eq
  rw [Uncached.copyFrom, uncached_schema, uncached_schema, if_pos same, Uncached.copyColumns_eq, columns,
    copiedColumns_eq, ← read] at opened
  obtain ⟨result, target'⟩ := Prod.mk.inj opened
  exact ⟨result.symm, target'.symm, mirrors.source_eq, mirrors.target, mirrors.source⟩

namespace CopyOutcome.Takes

variable {outcome : CopyOutcome} {columns : List String}

theorem result_eq_ok_iff (takes : outcome.Takes target source columns) :
    outcome.result = .ok () ↔ ∀ name ∈ columns, ∃ value, source.column name = .ok value := by
  rw [takes.result, map_eq_ok_iff, ← exists_mapM_eq_ok_iff]
  simp

theorem fails_iff (takes : outcome.Takes target source columns) :
    (∃ error, outcome.result = .error error) ↔ ∃ name ∈ columns, ∃ error, source.column name = .error error := by
  have either (result : Checked Unit) : (∃ error, result = .error error) ↔ ¬ result = .ok () := by
    cases result <;> simp
  have unread (name : String) :
      (∃ error, source.column name = .error error) ↔ ¬ ∃ value, source.column name = .ok value := by
    cases source.column name <;> simp
  rw [either, takes.result_eq_ok_iff]
  simp only [unread, not_forall, exists_prop]

/-- Where all columns can be read, they are handed over. -/
theorem handsOver (takes : outcome.Takes target source columns) (coherent : target.Coherent)
    (coherent' : source.Coherent) (same : target.schema = source.schema) (distinct : columns.Nodup)
    (identifier : target.schema.idColumn ∉ columns)
    (readable : ∀ name ∈ columns, ∃ value, source.column name = .ok value) :
    HandsOver columns target source outcome.target outcome.source := by
  have all : columns.takeWhile (fun name => (source.column name).isOk) = columns := by
    apply List.takeWhile_eq_self_iff.mpr
    intro name member
    obtain ⟨value, read⟩ := readable name member
    rw [read]
    rfl
  have taken : outcome.target.uncached = target.uncached.takeOver source.uncached columns :=
    takes.target.trans (congrArg _ all)
  have staged := Uncached.get?_takeOver target.uncached source.uncached columns
  have schema : outcome.target.schema = target.schema :=
    (congrArg Uncached.schema taken).trans (Uncached.takeOver_schema columns)
  have others (selector : Selector)
      (other : ∀ f, selector.resolve target.schema = .ok f → f.columnName ∉ columns) :
      outcome.target.uncached.get selector = target.uncached.get selector := by
    rw [taken]
    apply Uncached.get_eq_of_staged (Uncached.takeOver_schema _) (Uncached.takeOver_snapshot _)
    intro f resolved
    rw [staged, if_neg (other f resolved)]
  constructor
  case copied =>
    intro selector f resolved member
    obtain ⟨value, read⟩ := readable _ member
    rw [coherent'.column] at read
    have resolved' : selector.resolve source.schema = .ok f := same ▸ resolved
    refine ⟨value, ?_, ?_⟩
    · rw [(coherent'.get selector).result_eq, Uncached.get_eq_column resolved', read]
    · rw [(takes.coherent.get selector).result_eq]
      apply Uncached.get_of_staged (schema ▸ resolved)
      rw [taken, staged, if_pos member, read]
      rfl
  case others =>
    intro selector other
    rw [(takes.coherent.get selector).result_eq, others selector other, ← (coherent.get selector).result_eq]
  case id =>
    rw [takes.coherent.id?.result_eq, coherent.id?.result_eq, Uncached.id?, Uncached.id?, uncached_schema, schema,
      uncached_schema, others]
    intro f resolved
    rw [Schema.resolve_field List.mem_cons_self] at resolved
    exact Except.ok.inj resolved ▸ identifier
  case schema => exact schema
  case snapshot => exact (congrArg Uncached.snapshot taken).trans (Uncached.takeOver_snapshot columns)
  case dirty => rw [dirty_eq, taken, Uncached.keys_takeOver, eraseDups_eq_self distinct, ← dirty_eq]
  case distinct => exact takes.coherent.distinct
  case dirtyRecord =>
    intro column other
    have kept := staged column
    rw [if_neg other] at kept
    rw [dirtyRecord_eq, dirtyRecord_eq, taken]
    exact (OrderedMap.find?_map_value ..).trans
      ((congrArg _ kept).trans (OrderedMap.find?_map_value ..).symm)
  case source => exact unchanged_of_uncached_eq coherent' takes.coherent' takes.source

/-- The columns before the first one that cannot be read are taken over, so nothing changes just where they
are written with the same values already. -/
theorem unchanged_iff (takes : outcome.Takes target source columns) (coherent : target.Coherent)
    (coherent' : source.Coherent) :
    target.Unchanged outcome.target ↔
      ∀ name ∈ columns.takeWhile (fun name => (source.column name).isOk),
        name ∈ target.dirty ∧ source.column name = .ok (target.cache.get? name).join := by
  have value {name : String} (member : name ∈ columns.takeWhile fun name => (source.column name).isOk) :
      source.column name = .ok (source.uncached.column name).toOption.join := by
    have readable := List.all_eq_true.mp List.all_takeWhile name member
    rw [← coherent'.column]
    cases read : source.column name with
    | error error => simp [read, Except.isOk, Except.toBool] at readable
    | ok value => rfl
  constructor
  · intro unchanged name member
    have staged := Uncached.get?_takeOver target.uncached source.uncached
      (columns.takeWhile fun name => (source.column name).isOk) name
    rw [← takes.target, if_pos member, get?_uncached, unchanged.dirty] at staged
    by_cases written : name ∈ target.dirty
    · rw [if_pos written, unchanged.staged name written, Option.some.injEq] at staged
      exact ⟨written, (value member).trans (congrArg _ staged.symm)⟩
    · rw [if_neg written] at staged
      cases staged
  · intro written
    apply unchanged_of_uncached_eq coherent takes.coherent
    rw [takes.target]
    apply Uncached.takeOver_eq_self
    intro name member
    obtain ⟨dirty, same⟩ := written name member
    rw [get?_uncached, if_pos dirty, ← Except.ok.inj ((value member).symm.trans same)]

end CopyOutcome.Takes

/-- A copy between entities of one schema succeeds just where the source can read all columns to be copied.
Then these columns hold what the source reads of them and are written after those that were written before,
and nothing else changes. -/
theorem copy_hands_over (reachable : target.Reachable) (reachable' : source.Reachable)
    (same : target.schema = source.schema) (onlyChanges : Bool) :
    ((target.copyFrom source onlyChanges).result = .ok () ↔
      ∀ name ∈ source.handedOver target.schema.idColumn onlyChanges, ∃ value, source.column name = .ok value) ∧
    ((target.copyFrom source onlyChanges).result = .ok () →
      HandsOver (source.handedOver target.schema.idColumn onlyChanges) target source
        (target.copyFrom source onlyChanges).target (target.copyFrom source onlyChanges).source) := by
  have takes := copyFrom_takes reachable.coherent reachable'.coherent onlyChanges (congrArg Schema.name same)
  refine ⟨takes.result_eq_ok_iff, fun copied => ?_⟩
  have identifier : target.schema.idColumn ∉ source.handedOver target.schema.idColumn onlyChanges := by
    simp [mem_handedOver_iff]
  exact takes.handsOver reachable.coherent reachable'.coherent same (nodup_handedOver ..) identifier
    (takes.result_eq_ok_iff.mp copied)

/-- A written column and a loaded one, beside the identifier and a column that the schema does not declare. -/
theorem copy_hands_over_of_loaded :
    ∃ (schema : Schema) (target source : Entity),
      Schema.build ⟨"User", "users", none, "id",
        [{ name := "firstName", column := some "first_name", type := .string }, { name := "age", type := .integer },
          { name := "active", type := .boolean }]⟩ = .ok schema ∧
      (kind.run (fun _ => none) [.create "b" schema, .set "b" (.name "active") (.bool true)]).2 "b" = some target ∧
      (kind.run (fun _ => none) [.load "a" schema ⟨[("id", .string "a00aaaaaaaaaaaa"), ("nick", .bool true),
          ("first_name", .string "John"), ("age", .ofInt 30)]⟩, .set "a" (.name "age") .null]).2 "a" = some source ∧
      HandsOver ["first_name", "age"] target source (target.copyFrom source false).target
        (target.copyFrom source false).source := by
  have handed {target source : Entity} {calls calls' : List Call}
      (run : (kind.run (fun _ => none) calls).2 "b" = some target)
      (run' : (kind.run (fun _ => none) calls').2 "a" = some source) (same : target.schema = source.schema)
      (copied : (target.copyFrom source false).result = .ok ())
      (columns : source.handedOver target.schema.idColumn false = ["first_name", "age"]) :
      (kind.run (fun _ => none) calls).2 "b" = some target ∧ (kind.run (fun _ => none) calls').2 "a" = some source ∧
        HandsOver ["first_name", "age"] target source (target.copyFrom source false).target
          (target.copyFrom source false).source :=
    ⟨run, run', columns ▸ (copy_hands_over ⟨_, _, run⟩ ⟨_, _, run'⟩ same false).2 copied⟩
  exact ⟨_, _, _, rfl, handed rfl rfl rfl rfl rfl⟩

/-- A copy fails just where the names of the schemas differ or a column to be copied cannot be read. Where it
fails, it leaves the target as it was just if the names differ, or the columns before the first unreadable one
are written in the target with the same values already. -/
theorem failed_copy_unchanged_iff (reachable : target.Reachable) (reachable' : source.Reachable)
    (onlyChanges : Bool) :
    ((∃ error, (target.copyFrom source onlyChanges).result = .error error) ↔
      target.schema.name ≠ source.schema.name ∨
        ∃ name ∈ source.handedOver target.schema.idColumn onlyChanges, ∃ error,
          source.column name = .error error) ∧
    ((∃ error, (target.copyFrom source onlyChanges).result = .error error) →
      (target.Unchanged (target.copyFrom source onlyChanges).target ↔
        target.schema.name ≠ source.schema.name ∨
          ∀ name ∈ (source.handedOver target.schema.idColumn onlyChanges).takeWhile
              (fun name => (source.column name).isOk),
            name ∈ target.dirty ∧ source.column name = .ok (target.cache.get? name).join)) := by
  by_cases same : target.schema.name = source.schema.name
  · have takes := copyFrom_takes reachable.coherent reachable'.coherent onlyChanges same
    simp only [same, ne_eq, not_true_eq_false, false_or]
    exact ⟨takes.fails_iff, fun _ => takes.unchanged_iff reachable.coherent reachable'.coherent⟩
  · have refused : target.copyFrom source onlyChanges =
        ⟨refuse .invalidArgument (.copyAcross source.schema.name target.schema.name), target, source⟩ := by
      rw [copyFrom, if_neg same]
    have kept := unchanged_of_uncached_eq reachable.coherent reachable.coherent rfl
    simp [refused, same, refuse, kept]

/-- The text before the unreadable weight is written in the target already. -/
theorem failed_copy_unchanged_of_written :
    ∃ (schema : Schema) (target source : Entity) (error : DataError),
      Schema.build ⟨"User", "users", none, "id",
        [{ name := "name", type := .string }, { name := "weight", type := .integer }]⟩ = .ok schema ∧
      (kind.run (fun _ => none) [.create "b" schema, .set "b" (.name "name") (.string "John")]).2 "b" = some target ∧
      (kind.run (fun _ => none) [.load "a" schema ⟨[("name", .string "John"), ("weight", .string "unknown")]⟩]).2 "a" =
        some source ∧
      (target.copyFrom source false).result = .error error ∧
      target.Unchanged (target.copyFrom source false).target := by
  have kept {target source : Entity} {calls calls' : List Call} {error : DataError}
      (run : (kind.run (fun _ => none) calls).2 "b" = some target)
      (run' : (kind.run (fun _ => none) calls').2 "a" = some source)
      (failed : (target.copyFrom source false).result = .error error)
      (before : (source.handedOver target.schema.idColumn false).takeWhile
        (fun name => (source.column name).isOk) = ["name"])
      (written : "name" ∈ target.dirty ∧ source.column "name" = .ok (target.cache.get? "name").join) :
      (kind.run (fun _ => none) calls).2 "b" = some target ∧ (kind.run (fun _ => none) calls').2 "a" = some source ∧
        (target.copyFrom source false).result = .error error ∧
        target.Unchanged (target.copyFrom source false).target := by
    have unchanged := (failed_copy_unchanged_iff ⟨_, _, run⟩ ⟨_, _, run'⟩ false).2 ⟨error, failed⟩
    exact ⟨run, run', failed, unchanged.mpr (.inr (by simpa [before] using written))⟩
  exact ⟨_, _, _, _, rfl, kept rfl rfl rfl rfl ⟨List.mem_singleton_self _, rfl⟩⟩

/-- The text before the unreadable weight stays in the target. -/
theorem failed_copy_changes_target :
    ∃ (schema : Schema) (target source : Entity) (error : DataError),
      Schema.build ⟨"User", "users", none, "id",
        [{ name := "name", type := .string }, { name := "weight", type := .integer }]⟩ = .ok schema ∧
      (kind.run (fun _ => none) [.create "b" schema]).2 "b" = some target ∧
      (kind.run (fun _ => none) [.load "a" schema ⟨[("name", .string "John"), ("weight", .string "unknown")]⟩]).2 "a" =
        some source ∧
      (target.copyFrom source false).result = .error error ∧ target.dirty = [] ∧
      (target.copyFrom source false).target.dirty = ["name"] ∧
      (target.get (.name "name")).1 = .ok none ∧
      ((target.copyFrom source false).target.get (.name "name")).1 = .ok (some (.string "John")) ∧
      ¬ target.Unchanged (target.copyFrom source false).target := by
  refine ⟨_, _, _, _, rfl, rfl, rfl, rfl, rfl, rfl, rfl, rfl, ?_⟩
  intro unchanged
  exact absurd unchanged.dirty (List.cons_ne_nil _ _)

end Entity
end Tenancy
