import Tenancy.Proofs.Entity.Calls
import Tenancy.Proofs.Entity.Columns
import Tenancy.Proofs.Schema.Fields

/-! What the cache of an entity holds. Values pass the coercion of a field before they are cached, but
a copy hands over what passed the fields of its source. All entities hold coerced values of their own
fields just when the schemas of one name agree in their columns and in what these hold. -/
namespace Tenancy

/-- The forms that coerced values have. -/
inductive Value.Form where
  | id
  | text
  | bool
  | integer
  | number
  | timestamp
deriving DecidableEq

def Value.form? : Value → Option Value.Form
  | .id _ => some .id
  | .string _ => some .text
  | .bool _ => some .bool
  | .integer _ => some .integer
  | .number _ => some .number
  | .timestamp _ => some .timestamp
  | .null | .structured _ => none

def FieldType.form : FieldType → Value.Form
  | .id | .reference _ => .id
  | .string => .text
  | .boolean => .bool
  | .integer => .integer
  | .number _ => .number
  | .date | .datetime => .timestamp

theorem FieldType.form?_of_coerce {type : FieldType} {field : String} {value result : Value}
    (coerced : type.coerce field value = .ok result) : result.form? = some type.form := by
  cases type <;>
    obtain ⟨_, _, rfl⟩ := map_eq_ok_iff.mp coerced <;>
    rfl

/-- A value of a field: unset, or of the form of its type. -/
def Field.Takes (f : Field) (value : Option Value) : Prop := ∀ v ∈ value, v.form? = some f.type.form

theorem Field.takes_none (f : Field) : f.Takes none := fun _ present => nomatch present

theorem Field.takes_of_coerce {f : Field} {value : Value} {result : Option Value}
    (coerced : f.coerce value = .ok result) : f.Takes result := by
  rw [coerce] at coerced
  split at coerced
  · obtain rfl := Except.ok.inj coerced
    exact f.takes_none
  · obtain ⟨result, read, rfl⟩ := map_eq_ok_iff.mp coerced
    rintro _ ⟨⟩
    exact FieldType.form?_of_coerce read

/-- Every field takes a value that is not unset. -/
theorem Field.exists_coerce_eq_some (f : Field) : ∃ value result, f.coerce value = .ok (some result) := by
  obtain ⟨name, column, type, required⟩ := f
  cases type with
  | id | reference target => exact ⟨.id ⟨"aaaaaaaaaaaaaaa", by decide⟩, _, rfl⟩
  | string => exact ⟨.string "", _, rfl⟩
  | boolean => exact ⟨.bool true, _, rfl⟩
  | integer => exact ⟨.integer 0, _, rfl⟩
  | number places => exact ⟨.number (.zero false), _, rfl⟩
  | date | datetime => exact ⟨.timestamp ⟨0, 0, by decide, by decide, by decide⟩, _, rfl⟩

/-- A column of the schema, with a value of its field. -/
def Schema.Holds (s : Schema) (column : String) (value : Option Value) : Prop :=
  ∃ f ∈ s.fields, f.columnName = column ∧ f.Takes value

theorem Schema.Holds.takes {s : Schema} {f : Field} {value : Option Value} (holds : s.Holds f.columnName value)
    (member : f ∈ s.fields) : f.Takes value := by
  obtain ⟨g, listed, same, takes⟩ := holds
  exact eq_of_columnName_eq listed member same ▸ takes

/-- The columns that are copied from the one schema are columns of the other and hold the same. -/
def Schema.CopiesInto (source target : Schema) : Prop :=
  ∀ f ∈ source.fields, f.columnName ≠ target.idColumn →
    ∃ g ∈ target.fields, g.columnName = f.columnName ∧ g.type.form = f.type.form

theorem Schema.CopiesInto.holds {source target : Schema} (copies : source.CopiesInto target) {column : String}
    {value : Option Value} (holds : source.Holds column value) (other : column ≠ target.idColumn) :
    target.Holds column value := by
  obtain ⟨f, member, rfl, takes⟩ := holds
  obtain ⟨g, listed, same, form⟩ := copies f member other
  exact ⟨g, listed, same, fun v present => form ▸ takes v present⟩

namespace Entity

/-- Cached values are values of the fields of their columns, and written columns are cached. -/
structure Gated (e : Entity) : Prop where
  cached : ∀ column value, e.cache.get? column = some value → e.schema.Holds column value
  written : ∀ column ∈ e.dirty, ∃ value, e.cache.get? column = some value

variable {e : Entity}

theorem Gated.remember (gated : e.Gated) {column : String} {value : Option Value}
    (holds : e.schema.Holds column value) : Gated { e with cache := e.cache.insert column value } where
  cached := fun other cached present => by
    rw [OrderedMap.get?_insert] at present
    split at present
    · rename_i same
      obtain rfl := same
      obtain rfl := Option.some.inj present
      exact holds
    · exact gated.cached other cached present
  written := fun other listed => by
    rw [OrderedMap.get?_insert]
    split
    · exact ⟨value, rfl⟩
    · exact gated.written other listed

theorem Gated.stage (gated : e.Gated) {column : String} {value : Option Value}
    (holds : e.schema.Holds column value) : (e.stage column value).Gated where
  cached := (gated.remember holds).cached
  written := fun other listed => by
    obtain known | rfl := mem_addColumn.mp listed
    · exact (gated.remember holds).written other known
    · exact ⟨value, OrderedMap.get?_insert_self _ _ _⟩

/-- What is read is a value of the field, and reading leaves the schema and the gate in place. -/
theorem Gated.get (gated : e.Gated) (selector : Selector) :
    (e.get selector).2.schema = e.schema ∧ (e.get selector).2.Gated ∧
      ∀ f value, selector.resolve e.schema = .ok f → (e.get selector).1 = .ok value → f.Takes value := by
  rw [Entity.get]
  cases resolved : selector.resolve e.schema with
  | error error => exact ⟨rfl, gated, fun _ _ resolved => nomatch resolved⟩
  | ok f =>
    have member := Schema.mem_of_resolve resolved
    dsimp only
    cases cached : e.cache.get? f.columnName with
    | some value =>
      refine ⟨rfl, gated, ?_⟩
      rintro _ _ ⟨⟩ ⟨⟩
      exact (gated.cached _ _ cached).takes member
    | none =>
      cases e.snapshot.bind (·.get? f.columnName) with
      | none =>
        refine ⟨rfl, gated, ?_⟩
        rintro _ _ ⟨⟩ ⟨⟩
        exact f.takes_none
      | some raw =>
        dsimp only
        cases coerced : f.coerce (.ofJson raw) with
        | error error => exact ⟨rfl, gated, fun _ _ _ read => nomatch read⟩
        | ok value =>
          have takes := Field.takes_of_coerce coerced
          refine ⟨rfl, gated.remember ⟨f, member, rfl, takes⟩, ?_⟩
          rintro _ _ ⟨⟩ ⟨⟩
          exact takes

/-! A run keeps entities gated where schemas of one name copy into each other. -/

theorem gated_of_empty (clean : e.dirty = []) (empty : e.cache = ∅) : e.Gated where
  cached := fun column value present => by
    rw [empty] at present
    cases present
  written := fun column written => by simp [clean] at written

/-- An entity of one of some schemas that is gated. -/
structure GatedIn (schemas : Set Schema) (e : Entity) : Prop where
  schema : e.schema ∈ schemas
  gated : e.Gated

variable {schemas : Set Schema}

theorem GatedIn.set {e' : Entity} {selector : Selector} {value : Value} (gated : e.GatedIn schemas)
    (written : e.set selector value = .ok e') : e'.GatedIn schemas := by
  simp only [Entity.set, bind_eq_ok_iff, pure_eq_ok_iff] at written
  obtain ⟨f, resolved, coerced, read, rfl⟩ := written
  exact ⟨gated.schema, gated.gated.stage ⟨f, Schema.mem_of_resolve resolved, rfl, Field.takes_of_coerce read⟩⟩

theorem GatedIn.setAll {values : List (Selector × Value)} {e' : Entity} (gated : e.GatedIn schemas)
    (written : e.setAll values = .ok e') : e'.GatedIn schemas := by
  induction values generalizing e with
  | nil => exact Except.ok.inj written ▸ gated
  | cons entry rest ih =>
    obtain ⟨next, first, others⟩ := bind_eq_ok_iff.mp written
    exact ih (gated.set first) others

theorem GatedIn.ask (gated : e.GatedIn schemas) (question : Question) : (e.ask question).2.GatedIn schemas := by
  obtain same | ⟨selector, same⟩ := e.ask_after question
  · rw [same]
    exact gated
  · obtain ⟨schema, next, _⟩ := gated.gated.get selector
    rw [same]
    exact ⟨schema ▸ gated.schema, next⟩

theorem GatedIn.copyColumns {target source : Entity} (gated : target.GatedIn schemas)
    (gated' : source.GatedIn schemas) (copies : source.schema.CopiesInto target.schema) (columns : List String) :
    (copyColumns target.schema.idField.columnName columns target source).target.GatedIn schemas ∧
      (copyColumns target.schema.idField.columnName columns target source).source.GatedIn schemas := by
  induction columns generalizing target source with
  | nil => exact ⟨gated, gated'⟩
  | cons column rest ih =>
    rw [Entity.copyColumns]
    split
    · exact ih gated gated' copies
    · rename_i other
      cases found : source.schema.fieldByColumn? column with
      | none => exact ih gated gated' copies
      | some f =>
        obtain ⟨member, rfl⟩ := Schema.mem_of_fieldByColumn? found
        obtain ⟨schema, next, takes⟩ := gated'.gated.get (.field f)
        dsimp only
        rcases read : source.get (.field f) with ⟨result, origin⟩
        rw [read] at schema next takes
        have origin' : origin.GatedIn schemas := ⟨schema ▸ gated'.schema, next⟩
        cases result with
        | error error => exact ⟨gated, origin'⟩
        | ok value =>
          have held := copies.holds ⟨f, member, rfl, takes f value (Schema.resolve_field member) rfl⟩ other
          have staged : (target.stage f.columnName value).GatedIn schemas :=
            ⟨gated.schema, gated.gated.stage held⟩
          exact ih staged origin' (by rw [schema]; exact copies)

theorem keeps_gated (copies : ∀ source ∈ schemas, ∀ target ∈ schemas, source.name = target.name →
    source.CopiesInto target) : kind.Keeps schemas (GatedIn schemas) where
  ofSchema := fun _ listed => ⟨listed, gated_of_empty rfl rfl⟩
  ofRow := fun _ listed _ => ⟨listed, gated_of_empty rfl rfl⟩
  ofValues := fun _ listed _ _ written => GatedIn.setAll ⟨listed, gated_of_empty rfl rfl⟩ written
  set := fun _ _ _ _ gated written => gated.set written
  applyRow := fun _ _ gated => ⟨gated.schema, gated_of_empty rfl rfl⟩
  copyFrom := fun target source onlyChanges gated gated' => by
    change (target.copyFrom source onlyChanges).target.GatedIn schemas ∧
      (target.copyFrom source onlyChanges).source.GatedIn schemas
    rw [copyFrom]
    split
    · rename_i same
      exact gated.copyColumns gated' (copies _ gated'.schema _ gated.schema same.symm) _
    · exact ⟨gated, gated'⟩
  ask := fun _ question gated => gated.ask question

/-! A copy hands over a value that was written, whatever the target holds. -/

theorem get_stage {f : Field} (member : f ∈ e.schema.fields) (value : Option Value) :
    (e.stage f.columnName value).get (.field f) = (.ok value, e.stage f.columnName value) := by
  have resolved : (Selector.field f).resolve (e.stage f.columnName value).schema = .ok f :=
    Schema.resolve_field member
  have cached : (e.stage f.columnName value).cache.get? f.columnName = some value :=
    OrderedMap.get?_insert_self _ _ _
  rw [Entity.get, resolved]
  dsimp only
  rw [cached]

theorem copyFrom_stage {source target : Schema} (same : source.name = target.name) {f : Field}
    (member : f ∈ source.fields) (other : f.columnName ≠ target.idColumn) (value : Option Value) :
    ((ofSchema target).copyFrom ((ofSchema source).stage f.columnName value) true).target =
      (ofSchema target).stage f.columnName value := by
  have names : (ofSchema target).schema.name = ((ofSchema source).stage f.columnName value).schema.name := same.symm
  have columns : ((ofSchema source).stage f.columnName value).copiedColumns true = [f.columnName] := rfl
  have different : f.columnName ≠ (ofSchema target).schema.idField.columnName := other
  have found : ((ofSchema source).stage f.columnName value).schema.fieldByColumn? f.columnName = some f :=
    Schema.fieldByColumn?_of_mem member
  have read : ((ofSchema source).stage f.columnName value).get (.field f) = (.ok value, _) := get_stage member value
  rw [copyFrom, if_pos names, columns, Entity.copyColumns, if_neg different, found]
  dsimp only
  rw [read]
  rfl

/-- A run that copies one written value. -/
theorem run_copy {source target : Schema} (same : source.name = target.name) {f : Field}
    (member : f ∈ source.fields) (other : f.columnName ≠ target.idColumn) {value : Value} {result : Option Value}
    (coerced : f.coerce value = .ok result) :
    (kind.run (fun _ => none) [.create "source" source, .create "target" target, .set "source" (.field f) value,
      .copy "target" "source" true]).2 "target" = some ((ofSchema target).stage f.columnName result) := by
  have resolved : (Selector.field f).resolve (ofSchema source).schema = .ok f := Schema.resolve_field member
  have written : (ofSchema source).set (.field f) value = .ok ((ofSchema source).stage f.columnName result) := by
    rw [Entity.set, resolved, ok_bind, coerced]
    rfl
  have copied := copyFrom_stage same member other result
  simp [EntityKind.run, EntityKind.step, kind, Function.update_of_ne, written, copied]

/-- Entities hold coerced values of their own fields in all runs just when schemas of one name agree in
the columns that are copied, and in the forms of their values. -/
theorem gated_iff_copiesInto (schemas : Set Schema) :
    (∀ calls, (∀ call ∈ calls, call.Uses schemas) →
      EntityKind.All Gated (kind.run (fun _ => none) calls).2) ↔
    ∀ source ∈ schemas, ∀ target ∈ schemas, source.name = target.name → source.CopiesInto target := by
  constructor
  · intro gated source listed target listed' same f member other
    obtain ⟨value, result, coerced⟩ := f.exists_coerce_eq_some
    have uses : ∀ call ∈ ([.create "source" source, .create "target" target, .set "source" (.field f) value,
        .copy "target" "source" true] : List Call), call.Uses schemas := by
      simp [Call.Uses, listed, listed']
    have copied := gated _ uses "target" _ (run_copy same member other coerced)
    have cached := OrderedMap.get?_insert_self (ofSchema target).cache f.columnName (some result)
    obtain ⟨g, member', column, takes⟩ := copied.cached f.columnName (some result) cached
    refine ⟨g, member', column, Option.some.inj ?_⟩
    rw [← takes result rfl, Field.takes_of_coerce coerced result rfl]
  · intro copies calls uses name e present
    have none : EntityKind.All (GatedIn schemas) fun _ => none := fun _ _ member => nomatch member
    exact ((keeps_gated copies).run uses none name e present).gated

/-- An integer that is copied into a field of texts of another schema of the name. -/
theorem copied_value_not_gated :
    ∃ (source target : Schema) (calls : List Call) (e : Entity),
      Schema.build ⟨"User", "users", none, "id", [{ name := "age", type := .integer }]⟩ = .ok source ∧
      Schema.build ⟨"User", "users", none, "id", [{ name := "age", type := .string }]⟩ = .ok target ∧
      calls = [.create "source" source, .create "target" target, .set "source" (.name "age") (.integer 30),
        .copy "target" "source" true] ∧
      kind.answers calls = List.replicate 4 (.done (.ok ())) ∧
      (kind.run (fun _ => none) calls).2 "target" = some e ∧
      e.schema = target ∧ e.cache.get? "age" = some (some (.integer 30)) ∧ ¬ e.Gated := by
  refine ⟨_, _, _, _, rfl, rfl, rfl, rfl, rfl, rfl, rfl, ?_⟩
  intro gated
  obtain ⟨g, member, column, takes⟩ := gated.cached "age" _ rfl
  obtain rfl | member := List.mem_cons.mp member
  · exact absurd column (by decide)
  · obtain rfl := List.mem_singleton.mp member
    exact absurd (takes _ rfl) (by decide)

end Entity
end Tenancy
