import Mathlib.Data.List.Induction
import Tenancy.Proofs.Entity.Reachable
import Tenancy.Proofs.Field.Storage

/-! Written values in storage. What is written to a column of an entity was coerced by the field of the
column. So the record of the entity, when it is loaded again, gives the value back as far as its stored
form does. -/
namespace Tenancy

/-- A value that the field makes of some input. -/
def Field.Yields (f : Field) (value : Option Value) : Prop := ∃ given, f.coerce given = .ok value

theorem Field.yields_none (f : Field) : f.Yields none := ⟨.null, rfl⟩

theorem Field.Yields.coerced {f : Field} {value : Value} (yields : f.Yields (some value)) :
    ∃ given, f.type.coerce f.name given = .ok value := by
  obtain ⟨given, coerced⟩ := yields
  rw [coerce] at coerced
  split at coerced
  · cases coerced
  · obtain ⟨_, read, same⟩ := map_eq_ok_iff.mp coerced
    exact ⟨given, Option.some.inj same ▸ read⟩

namespace EntityKind

variable {ε : Type} {k : EntityKind ε} {s : String → Option ε}

/-- The kind with copies that do nothing. -/
def withoutCopies (k : EntityKind ε) : EntityKind ε :=
  { k with copyFrom := fun target source _ => (.ok (), target, source) }

theorem step_withoutCopies {call : Call}
    (other : ∀ name source onlyChanges, call ≠ .copy name source onlyChanges) :
    k.withoutCopies.step s call = k.step s call := by
  cases call with
  | copy name source onlyChanges => exact absurd rfl (other name source onlyChanges)
  | _ => rfl

theorem all_map_iff {ε' : Type} {P : ε' → Prop} {image : ε → ε'} :
    All P (Option.map image ∘ s) ↔ All (fun e => P (image e)) s := by
  constructor
  · intro all name e member
    have member' : Option.map image (s name) = some (image e) := congrArg (Option.map image) member
    exact all name (image e) member'
  · intro all name e' member
    obtain ⟨e, found, rfl⟩ := Option.map_eq_some_iff.mp member
    exact all name e found

end EntityKind

namespace Uncached

/-- Written values are made by the fields of their columns. -/
def Coerced (u : Uncached) : Prop :=
  ∀ column value, u.staged.get? column = some value → ∃ f ∈ u.schema.fields, f.columnName = column ∧ f.Yields value

variable {u : Uncached} {f : Field} {value : Option Value}

theorem coerced_of_empty (empty : u.staged = ∅) : u.Coerced := fun column value present => by
  rw [empty] at present
  cases present

theorem Coerced.stage (coerced : u.Coerced) (member : f ∈ u.schema.fields) (yields : f.Yields value) :
    (u.stage f.columnName value).Coerced := fun other written present => by
  rw [Uncached.stage, OrderedMap.get?_insert] at present
  split at present
  · rename_i same
    obtain rfl := Option.some.inj present
    exact ⟨f, member, same.symm, yields⟩
  · exact coerced other written present

theorem Coerced.yields (coerced : u.Coerced) (member : f ∈ u.schema.fields) (read : u.get (.field f) = .ok value) :
    f.Yields value := by
  rw [Uncached.get, Schema.resolve_field member, ok_bind] at read
  split at read
  · rename_i written present
    obtain ⟨g, other, same, yields⟩ := coerced _ _ present
    obtain rfl := Schema.eq_of_columnName_eq other member same
    rwa [← pure_eq_ok_iff.mp read] at yields
  · split at read
    · exact ⟨_, read⟩
    · rw [pure_eq_ok_iff.mp read]
      exact f.yields_none

theorem Coerced.set {u' : Uncached} {selector : Selector} {given : Value} (coerced : u.Coerced)
    (written : u.set selector given = .ok u') : u'.Coerced := by
  simp only [Uncached.set, bind_eq_ok_iff, pure_eq_ok_iff] at written
  obtain ⟨f, resolved, value, made, rfl⟩ := written
  exact coerced.stage (Schema.mem_of_resolve resolved) ⟨given, made⟩

theorem Coerced.setAll {u' : Uncached} {values : List (Selector × Value)} (coerced : u.Coerced)
    (written : u.setAll values = .ok u') : u'.Coerced := by
  induction values generalizing u with
  | nil => exact Except.ok.inj written ▸ coerced
  | cons entry rest ih =>
    obtain ⟨next, first, others⟩ := bind_eq_ok_iff.mp written
    exact ih (coerced.set first) others

theorem Coerced.copyColumns {target source : Uncached} (coerced : target.Coerced) (coerced' : source.Coerced)
    (same : target.schema = source.schema) (idColumn : String) (columns : List String) :
    (copyColumns idColumn source columns target).2.Coerced := by
  induction columns generalizing target with
  | nil => exact coerced
  | cons column rest ih =>
    rw [Uncached.copyColumns]
    split
    · exact ih coerced same
    · cases found : source.schema.fieldByColumn? column with
      | none => exact ih coerced same
      | some f =>
        obtain ⟨member, rfl⟩ := Schema.mem_of_fieldByColumn? found
        dsimp only
        cases read : source.get (.field f) with
        | error error => exact coerced
        | ok value =>
          have member' : f ∈ target.schema.fields := same ▸ member
          exact ih (coerced.stage member' (coerced'.yields member read)) same

/-- Nothing is copied between these entities, or they have one schema. -/
def MayCopy (target source : Uncached) : Prop :=
  target.schema.name = source.schema.name → target.schema = source.schema

theorem Coerced.copyFrom {target source : Uncached} (coerced : target.Coerced) (coerced' : source.Coerced)
    (may : target.MayCopy source) (onlyChanges : Bool) : (target.copyFrom source onlyChanges).2.Coerced := by
  rw [Uncached.copyFrom]
  split
  · rename_i same
    exact coerced.copyColumns coerced' (may same) _ _
  · exact coerced

theorem keeps_coerced : kind.withoutCopies.Keeps Set.univ Coerced where
  ofSchema := fun _ _ => coerced_of_empty rfl
  ofRow := fun _ _ _ => coerced_of_empty rfl
  ofValues := fun _ _ _ _ written => Coerced.setAll (coerced_of_empty rfl) written
  set := fun _ _ _ _ coerced written => coerced.set written
  applyRow := fun _ _ _ => coerced_of_empty rfl
  copyFrom := fun _ _ _ coerced coerced' => ⟨coerced, coerced'⟩
  ask := fun _ _ coerced => coerced

theorem coerced_step {s : String → Option Uncached} (all : EntityKind.All Coerced s) (call : Call)
    (may : ∀ name source onlyChanges, call = .copy name source onlyChanges →
      ∀ target ∈ s name, ∀ origin ∈ s source, target.MayCopy origin) :
    EntityKind.All Coerced (kind.step s call).2 := by
  cases call with
  | copy name source onlyChanges =>
    rw [EntityKind.step]
    split
    · rename_i target origin foundTarget foundOrigin
      have may := may name source onlyChanges rfl target foundTarget origin foundOrigin
      have coerced := all name target foundTarget
      have coerced' := all source origin foundOrigin
      exact (all.update source coerced').update name (coerced.copyFrom coerced' may onlyChanges)
    · exact all
  | _ =>
    rw [← EntityKind.step_withoutCopies]
    · exact keeps_coerced.step (Call.uses_univ _) all
    · intro name source onlyChanges same
      cases same

end Uncached

namespace Entity

variable {e : Entity} {column : String}

/-- Copies of a run are between entities of one schema, but for those that fail because the names of the
schemas differ. -/
def CopiesWithinSchemas (calls : List Call) : Prop :=
  ∀ before name source onlyChanges after, calls = before ++ .copy name source onlyChanges :: after →
    ∀ target origin : Entity, (kind.run (fun _ => none) before).2 name = some target →
      (kind.run (fun _ => none) before).2 source = some origin → target.uncached.MayCopy origin.uncached

theorem copiesWithinSchemas_of_no_copy {calls : List Call}
    (other : ∀ name source onlyChanges, .copy name source onlyChanges ∉ calls) : CopiesWithinSchemas calls := by
  rintro before name source onlyChanges after rfl
  exact absurd (List.mem_append_right before List.mem_cons_self) (other name source onlyChanges)

theorem coerced_of_run {calls : List Call} (within : CopiesWithinSchemas calls) :
    EntityKind.All (fun e : Entity => e.uncached.Coerced) (kind.run (fun _ => none) calls).2 := by
  induction calls using List.reverseRecOn with
  | nil => exact fun _ _ member => nomatch member
  | append_singleton before call ih =>
    have earlier : CopiesWithinSchemas before := fun first name source onlyChanges after same =>
      within first name source onlyChanges (after ++ [call]) (by rw [same, List.append_assoc, List.cons_append])
    have empty : EntityKind.All Coherent fun _ => none := fun _ _ member => nomatch member
    have coherent : EntityKind.All Coherent (kind.run (fun _ => none) before).2 :=
      keeps_coherent.run (fun call _ => call.uses_univ) empty
    have last : (kind.run (fun _ => none) (before ++ [call])).2 =
        (kind.step (kind.run (fun _ => none) before).2 call).2 := by
      rw [EntityKind.run_append]
      rfl
    have step : _ = Option.map uncached ∘ (kind.step (kind.run (fun _ => none) before).2 call).2 :=
      congrArg Prod.snd (simulates_uncached.step coherent call)
    rw [last, ← EntityKind.all_map_iff, ← step]
    refine Uncached.coerced_step (EntityKind.all_map_iff.mpr (ih earlier)) call ?_
    rintro name source onlyChanges rfl _ targetImage _ originImage
    obtain ⟨target, foundTarget, rfl⟩ := Option.map_eq_some_iff.mp targetImage
    obtain ⟨origin, foundOrigin, rfl⟩ := Option.map_eq_some_iff.mp originImage
    exact within before name source onlyChanges [] rfl target origin foundTarget foundOrigin

/-! The stored form of a written value. -/

theorem get?_toRecord (written : column ∈ e.dirty) : e.toRecord.get? column = some (e.cachedJson column) := by
  have written_or_known (columns : List String) (record : Record)
      (either : column ∈ columns ∨ record.get? column = some (e.cachedJson column)) :
      (columns.foldl (fun record column => record.insert column (e.cachedJson column)) record).get? column =
        some (e.cachedJson column) := by
    induction columns generalizing record with
    | nil => exact either.resolve_left List.not_mem_nil
    | cons first rest ih =>
      rw [List.foldl_cons]
      refine ih _ ?_
      rw [OrderedMap.get?_insert]
      by_cases same : column = first
      · rw [if_pos same, same]
        exact .inr rfl
      · rw [if_neg same]
        exact either.imp_left fun listed => (List.mem_cons.mp listed).resolve_left same
  exact written_or_known e.dirty _ (.inl written)

theorem get_ofRow {schema : Schema} {row : Record} {selector : Selector} {f : Field} {raw : Json}
    (resolved : selector.resolve schema = .ok f) (present : row.get? f.columnName = some raw) :
    ((ofRow schema row).get selector).1 = f.coerce (.ofJson raw) := by
  have missing : (ofRow schema row).cache.get? f.columnName = none := rfl
  have stored : (ofRow schema row).snapshot.bind (·.get? f.columnName) = some raw := present
  rw [Entity.get, show (ofRow schema row).schema = schema from rfl, resolved]
  dsimp only
  rw [missing, stored]
  dsimp only
  cases f.coerce (.ofJson raw) <;> rfl

theorem get_written (coherent : e.Coherent) {selector : Selector} {f : Field}
    (resolved : selector.resolve e.schema = .ok f) (written : f.columnName ∈ e.dirty) :
    (e.get selector).1 = .ok (e.cache.get? f.columnName).join := by
  obtain ⟨value, cached⟩ := coherent.staged _ written
  rw [Entity.get, resolved]
  dsimp only
  rw [cached]
  rfl

/-- The value of a written column, and what is read of it from the record of the entity. -/
structure ReadsBack (e : Entity) (selector : Selector) (value : Option Value) : Prop where
  written : (e.get selector).1 = .ok value
  unset : value = none → ((ofRow e.schema e.toRecord).get selector).1 = .ok none
  stored : ∀ v, value = some v → ∃ outcome, v.ReadsBack outcome ∧
    ((ofRow e.schema e.toRecord).get selector).1 = outcome.map some

theorem readsBack_of_coerced (coherent : e.Coherent) (coerced : e.uncached.Coerced) {selector : Selector} {f : Field}
    (resolved : selector.resolve e.schema = .ok f) (exact : ∀ places, f.type ≠ .number places)
    (written : f.columnName ∈ e.dirty) : ∃ value, e.ReadsBack selector value := by
  have reread := get_ofRow resolved (get?_toRecord written)
  rw [cachedJson_eq] at reread
  refine ⟨(e.cache.get? f.columnName).join, get_written coherent resolved written, fun unset => ?_, fun v set => ?_⟩
  · rw [reread, unset]
    rfl
  · have staged : e.uncached.staged.get? f.columnName = some (some v) := by
      rw [get?_uncached, if_pos written, set]
    obtain ⟨g, member, same, yields⟩ := coerced _ _ staged
    obtain rfl := Schema.eq_of_columnName_eq member (Schema.mem_of_resolve resolved) same
    obtain ⟨given, made⟩ := yields.coerced
    refine ⟨_, FieldType.readsBack_of_coerce made exact, ?_⟩
    rw [reread, set, Field.coerce, if_neg]
    · rfl
    · exact Bool.eq_false_iff.mp (FieldType.isNull_of_coerce made exact)

/-- Values that fields other than those of numbers coerce are read back from their stored form as it shows them,
or not at all if they are instants whose texts are not read. They come back as they are just when they are no
instants, or instants in whole milliseconds of a year of four digits whose nanoseconds stay within the second. So
are the written values of an entity read back from its record, where nothing is copied from one schema to another. -/
theorem coerced_values_read_back :
    (∀ (type : FieldType) (field : String) (value stored : Value), (∀ places, type ≠ .number places) →
      type.coerce field value = .ok stored →
      stored.ReadsBack (type.coerce field (.ofJson stored.toJson)) ∧
      (type.coerce field (.ofJson stored.toJson) = .ok stored ↔ stored.IsWritten)) ∧
    ∀ calls, CopiesWithinSchemas calls → ∀ (name : String) (e : Entity),
      (kind.run (fun _ => none) calls).2 name = some e → ∀ (selector : Selector) (f : Field),
      selector.resolve e.schema = .ok f → (∀ places, f.type ≠ .number places) → f.columnName ∈ e.dirty →
      ∃ value, e.ReadsBack selector value := by
  constructor
  · intro type field value stored exact coerced
    have reads := FieldType.readsBack_of_coerce coerced exact
    exact ⟨reads, reads.eq_ok_iff⟩
  · intro calls within name e present selector f resolved exact written
    have coerced := coerced_of_run within name e present
    exact readsBack_of_coerced (Reachable.coherent ⟨calls, name, present⟩) coerced resolved exact written

/-- An instant in whole milliseconds that is set in an entity. -/
theorem coerced_values_read_back_of_millis :
    ∃ (schema : Schema) (t : Instant) (e : Entity),
      Schema.build ⟨"Event", "events", none, "id", [{ name := "at", type := .datetime }]⟩ = .ok schema ∧
      t = ⟨1349349071, 123000000, by decide, by decide, by decide⟩ ∧
      FieldType.datetime.coerce "at" (.ofJson (Value.toJson (.timestamp t))) = .ok (.timestamp t) ∧
      (kind.run (fun _ => none) [.create "a" schema, .set "a" (.name "at") (.timestamp t)]).2 "a" = some e ∧
      ∃ value, e.ReadsBack (.name "at") value := by
  obtain ⟨values, entities⟩ := coerced_values_read_back
  obtain ⟨t, same, settled⟩ : ∃ t : Instant,
      t = ⟨1349349071, 123000000, by decide, by decide, by decide⟩ ∧ t.IsWritten := ⟨_, rfl, by decide⟩
  have reread {e : Entity} {f : Field}
      (run : (kind.run (fun _ => none) [.create "a" e.schema, .set "a" (.name "at") (.timestamp t)]).2 "a" = some e)
      (resolved : (Selector.name "at").resolve e.schema = .ok f) (exact : ∀ places, f.type ≠ .number places)
      (written : f.columnName ∈ e.dirty) : ∃ value, e.ReadsBack (.name "at") value :=
    entities _ (copiesWithinSchemas_of_no_copy (by simp)) "a" e run _ f resolved exact written
  have exact := (values .datetime "at" (.timestamp t) (.timestamp t) nofun rfl).2.mpr settled
  exact ⟨_, t, _, rfl, same, exact, rfl, reread rfl rfl nofun List.mem_cons_self⟩

/-- Microseconds, nanoseconds beyond a second, a year of five digits and a leap second are not read back, and
neither is a text that was copied into an integer field of another schema of the same name. -/
theorem coerced_value_not_read_back :
    (∃ stored read, FieldType.datetime.coerce "at" (.string "2012-10-04T11:11:11.123456Z") = .ok stored ∧
      FieldType.datetime.coerce "at" (.ofJson stored.toJson) = .ok read ∧ read ≠ stored) ∧
    (∃ stored read, FieldType.datetime.coerce "at"
        (.timestamp ⟨1349349071, 1500000000, by decide, by decide, by decide⟩) = .ok stored ∧
      FieldType.datetime.coerce "at" (.ofJson stored.toJson) = .ok read ∧ read ≠ stored) ∧
    (∃ stored error, FieldType.datetime.coerce "at" (.integer 253402300800000) = .ok stored ∧
      FieldType.datetime.coerce "at" (.ofJson stored.toJson) = .error error) ∧
    (∃ stored error, FieldType.datetime.coerce "at"
        (.timestamp ⟨1483228799, 1000000000, by decide, by decide, by decide⟩) = .ok stored ∧
      FieldType.datetime.coerce "at" (.ofJson stored.toJson) = .error error) ∧
    ∃ (source target : Schema) (e : Entity) (stored : Value) (error : DataError),
      Schema.build ⟨"User", "users", none, "id", [{ name := "age", type := .string }]⟩ = .ok source ∧
      Schema.build ⟨"User", "users", none, "id", [{ name := "age", type := .integer }]⟩ = .ok target ∧
      (kind.run (fun _ => none) [.create "source" source, .create "target" target,
        .set "source" (.name "age") (.string "Ann"), .copy "target" "source" true]).2 "target" = some e ∧
      (e.get (.name "age")).1 = .ok (some stored) ∧
      ((ofRow e.schema e.toRecord).get (.name "age")).1 = .error error := by
  refine ⟨⟨_, _, rfl, rfl, ?_⟩, ⟨_, _, rfl, rfl, ?_⟩, ⟨_, _, rfl, rfl⟩, ⟨_, _, rfl, rfl⟩, _, _, _, _, _, rfl, rfl, rfl,
    rfl, rfl⟩
  · rintro ⟨⟩
  · rintro ⟨⟩

end Entity
end Tenancy
