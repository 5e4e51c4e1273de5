import Tenancy.Proofs.Catalog.Whitelist
import Tenancy.Proofs.Entity.Gate
import Tenancy.Proofs.Entity.Storage
import Tenancy.Proofs.Store.Faults

/-! What entities write, before the compiler. Where a catalog lists the columns of a schema, the compiler takes
everything that its entities write, but for texts with a NUL character. -/
namespace Tenancy

open Sql

/-- Records without a NUL character in their texts. -/
def Record.IsNulFree (record : Record) : Prop :=
  ∀ column text, (column, Json.string text) ∈ record.entries → '\x00' ∉ text.toList

/-- Tenants whose catalog lists a table for the schema, with all its columns and the same identifier column. -/
structure Tenant.Covers (t : Tenant) (s : Schema) : Prop where
  idColumn : t.idColumn = s.idColumn
  listed : ∃ table, t.catalog.table? s.table = some table ∧ ∀ column ∈ s.columns, column ∈ table.columnNames

/-- A query for one record that compiles if its payload has no NUL character, and is refused for it else. -/
structure Tenant.CompilesUnlessNul (t : Tenant) (query : Query) (payload : Record) : Prop where
  compiles_iff : (∃ sql, t.compile query = .ok [sql]) ↔ payload.IsNulFree
  refused : ¬ payload.IsNulFree → t.compile query = refuse .invalidQuery (.badLiteral .nulCharacter)

/-! Coerced values are scalars, and the only scalars that are no literals have a NUL character. -/

theorem Value.isStructured_toJson {value : Value} {form : Value.Form} (formed : value.form? = some form) :
    value.toJson.isStructured = false := by
  cases value with
  | structured => cases formed
  | number x => cases x <;> rfl
  | _ => rfl

theorem Field.Takes.isStructured_jsonOf {f : Field} {value : Option Value} (takes : f.Takes value) :
    (Uncached.jsonOf value).isStructured = false := by
  cases value with
  | none => rfl
  | some v => exact Value.isStructured_toJson (takes v rfl)

theorem Json.isLiteral_iff_of_scalar {value : Json} (plain : value.isStructured = false) :
    value.IsLiteral ↔ ∀ text, value = .string text → '\x00' ∉ text.toList := by
  cases value with
  | string s => simp [Json.IsLiteral]
  | array | object => cases plain
  | _ => simp [Json.IsLiteral]

theorem literalOf_eq_error {value : Json} {error : DataError} (plain : value.isStructured = false)
    (failed : literalOf value = .error error) : error = ⟨.invalidQuery, .badLiteral .nulCharacter⟩ := by
  cases value with
  | string s =>
    rw [literalOf, Literal.ofJson, Literal.ofText] at failed
    split at failed
    · cases failed
    · rename_i fault failed'
      split at failed'
      · cases failed'
        exact (Except.error.inj failed).symm
      · cases failed'
  | array | object => cases plain
  | _ => cases failed

theorem Schema.idColumn_mem_columns (s : Schema) : s.idColumn ∈ s.columns := List.mem_cons_self

theorem OrderedMap.not_mem_keys_erase {α : Type} (m : OrderedMap α) (key : String) : key ∉ (m.erase key).keys := by
  rw [← contains_iff, contains, get?_erase, if_pos rfl]
  exact Bool.false_ne_true

namespace CatalogTable

variable {T : CatalogTable} {record : Record}

/-- Records of admitted columns that hold scalars. -/
def TakesRecord (T : CatalogTable) (record : Record) : Prop :=
  ∀ entry ∈ record.entries, T.Admits entry.1 ∧ entry.2.isStructured = false

theorem TakesRecord.erase (takes : T.TakesRecord record) (column : String) : T.TakesRecord (record.erase column) :=
  fun entry member => takes entry (List.mem_of_mem_filter member)

theorem TakesRecord.admitsRecord_iff (takes : T.TakesRecord record) : T.AdmitsRecord record ↔ record.IsNulFree := by
  constructor
  · intro admits column text member
    exact (Json.isLiteral_iff_of_scalar (takes _ member).2).mp (admits _ member).2 text rfl
  · rintro free ⟨column, value⟩ member
    refine ⟨(takes _ member).1, (Json.isLiteral_iff_of_scalar (takes _ member).2).mpr ?_⟩
    rintro text rfl
    exact free column text member

theorem TakesRecord.assignments_refused (takes : T.TakesRecord record) (nul : ¬ record.IsNulFree) :
    T.assignments record = refuse .invalidQuery (.badLiteral .nulCharacter) := by
  have failed : ¬ ∃ assignments, T.assignments record = .ok assignments := by
    rintro ⟨_, compiled⟩
    exact nul (takes.admitsRecord_iff.mp (assignments_eq_ok_iff.mp compiled).1)
  obtain ⟨error, refused⟩ := eq_error_of_ne_ok failed
  obtain ⟨entry, member, failed⟩ := mem_of_mapM_eq_error refused
  obtain ⟨admitted, plain⟩ := takes entry member
  rw [assignment, checkColumn_eq_ok_iff.mpr admitted, ok_bind] at failed
  obtain failed | ⟨_, _, passed⟩ := bind_eq_error_iff.mp failed
  · rw [refused, literalOf_eq_error plain failed]
    rfl
  · cases passed

theorem TakesRecord.insertStatement_refused (takes : T.TakesRecord record) (nul : ¬ record.IsNulFree) :
    T.insertStatement record = refuse .invalidQuery (.badLiteral .nulCharacter) := by
  rw [insertStatement, takes.assignments_refused nul]
  rfl

theorem TakesRecord.updateStatement_refused {idColumn : String} {change : Query.Change} {id : RecordId}
    (takes : T.TakesRecord change.updates) (nul : ¬ change.updates.IsNulFree) (admitted : T.Admits idColumn)
    (named : change.filter = idCondition idColumn id.text) (nonempty : change.updates.entries ≠ [])
    (fixed : idColumn ∉ change.updates.keys) :
    T.updateStatement idColumn change = refuse .invalidQuery (.badLiteral .nulCharacter) := by
  have filtered : T.filteredId idColumn change.filter = .ok id := filteredId_eq_ok_iff.mpr ⟨named, admitted⟩
  have some : ¬ change.updates.isEmpty = true := fun empty => nonempty (OrderedMap.isEmpty_iff.mp empty)
  have other : ¬ change.updates.contains idColumn = true := fun present => fixed (OrderedMap.contains_iff.mp present)
  rw [updateStatement, filtered, ok_bind, if_neg some, if_neg other, takes.assignments_refused nul]
  rfl

end CatalogTable

namespace Entity

variable {e : Entity}

/-- What a coherent entity has written belongs to columns of its schema and is scalar. -/
theorem dirtyRecord_takes (coerced : e.uncached.Coerced) {entry : String × Json} (member : entry ∈ e.dirtyRecord.entries) :
    entry.1 ∈ e.schema.columns ∧ entry.2.isStructured = false := by
  obtain ⟨column, written, rfl⟩ := List.mem_map.mp member
  have staged := get?_uncached e column
  rw [if_pos written] at staged
  obtain ⟨f, listed, rfl, given, made⟩ := coerced _ _ staged
  rw [cachedJson_eq]
  exact ⟨List.mem_map_of_mem listed, (Field.takes_of_coerce made).isStructured_jsonOf⟩

end Entity

namespace Tenant

variable {t : Tenant} {s : Schema}

theorem Covers.exists_admits (covers : t.Covers s) :
    ∃ T, t.catalog.Lists s.table T ∧ ∀ column ∈ s.columns, T.Admits column := by
  obtain ⟨T, found, listed⟩ := covers.listed
  refine ⟨T, ⟨s.table_plain, found⟩, fun column known => ⟨?_, listed column known⟩⟩
  obtain ⟨f, member, rfl⟩ := List.mem_map.mp known
  exact s.sound.columns_plain f member

/-- A query for one record is one statement. -/
theorem compile_single {α : Type} {query : Query} {table : String} {T : CatalogTable} {item : α}
    (statement : CatalogTable → α → Checked Statement) (listed : t.catalog.Lists table T)
    (shape : t.catalog.compile t.idColumn query = t.catalog.checkTable table >>= fun T => [item].mapM (statement T)) :
    t.compile query = (statement T item).map fun s => [s.sql] := by
  rw [compile, shape, checkTable_eq_ok_iff.mpr listed, ok_bind, List.mapM_cons, List.mapM_nil]
  cases statement T item <;> rfl

variable {table : String} {T : CatalogTable}

theorem compile_insert_single (listed : t.catalog.Lists table T) (record : Record) :
    t.compile (.insert ⟨table, [record]⟩) = (T.insertStatement record).map fun s => [s.sql] :=
  compile_single (fun T => T.insertStatement) listed rfl

theorem compile_update_single (listed : t.catalog.Lists table T) (change : Query.Change) :
    t.compile (.update ⟨table, [change]⟩) = (T.updateStatement t.idColumn change).map fun s => [s.sql] :=
  compile_single (fun T => T.updateStatement t.idColumn) listed rfl

theorem compile_delete_single (listed : t.catalog.Lists table T) (filter : Condition) :
    t.compile (.delete ⟨table, [filter]⟩) = (T.deleteStatement t.idColumn filter).map fun s => [s.sql] :=
  compile_single (fun T => T.deleteStatement t.idColumn) listed rfl

theorem compilesUnlessNul_of_statement {query : Query} {payload : Record} {compiled : Checked Statement}
    (same : t.compile query = compiled.map fun s => [s.sql])
    (free : payload.IsNulFree → ∃ statement, compiled = .ok statement)
    (nul : ¬ payload.IsNulFree → compiled = refuse .invalidQuery (.badLiteral .nulCharacter)) :
    t.CompilesUnlessNul query payload where
  compiles_iff := by
    rw [same]
    constructor
    · rintro ⟨_, passed⟩
      by_contra present
      rw [nul present] at passed
      cases passed
    · intro absent
      obtain ⟨statement, passed⟩ := free absent
      rw [passed]
      exact ⟨_, rfl⟩
  refused := fun present => by
    rw [same, nul present]
    rfl

end Tenant

namespace Entity

open CatalogTable (idCondition)

variable {e : Entity}

theorem eq_dirtyRecord_of_insertRecord (coherent : e.Coherent) {record : Record}
    (made : e.insertRecord.1 = .ok record) : record = e.dirtyRecord := by
  rw [coherent.insertRecord, Uncached.insertRecord] at made
  obtain ⟨_ | id, _, rest⟩ := bind_eq_ok_iff.mp made
  · rw [dirtyRecord_eq]
    exact pure_eq_ok_iff.mp rest
  · cases rest

theorem exists_eq_of_updateRecord (coherent : e.Coherent) {change : Query.Change}
    (made : e.updateRecord.1 = .ok change) :
    ∃ id : RecordId, change = ⟨idCondition e.schema.idColumn id.text, e.dirtyRecord.erase e.schema.idColumn⟩ := by
  rw [coherent.updateRecord, Uncached.updateRecord] at made
  obtain ⟨id, _, rest⟩ := bind_eq_ok_iff.mp made
  rw [dirtyRecord_eq]
  exact ⟨id, pure_eq_ok_iff.mp rest⟩

theorem exists_eq_of_deleteRecord (coherent : e.Coherent) {filter : Condition}
    (made : e.deleteRecord.1 = .ok filter) : ∃ id : RecordId, filter = idCondition e.schema.idColumn id.text := by
  rw [coherent.deleteRecord, Uncached.deleteRecord] at made
  obtain ⟨id, _, rest⟩ := bind_eq_ok_iff.mp made
  exact ⟨id, pure_eq_ok_iff.mp rest⟩

/-- In a run with one schema nothing is copied from another. -/
theorem copiesWithinSchemas_of_uses {schema : Schema} {calls : List Call} (uses : ∀ call ∈ calls, call.Uses {schema}) :
    CopiesWithinSchemas calls := by
  rintro before name source onlyChanges after rfl target origin foundTarget foundOrigin _
  have copies : ∀ source ∈ ({schema} : Set Schema), ∀ target ∈ ({schema} : Set Schema), source.name = target.name →
      source.CopiesInto target := by
    rintro _ rfl _ rfl _ f member _
    exact ⟨f, member, rfl, rfl⟩
  have none : EntityKind.All (GatedIn {schema}) fun _ => none := fun _ _ member => nomatch member
  have all := (keeps_gated copies).run (fun call member => uses call (List.mem_append_left _ member)) none
  exact (all name target foundTarget).schema.trans (all source origin foundOrigin).schema.symm

/-- Whatever an entity writes compiles, if nothing was copied to it from another schema and no text that it writes has
a NUL character. -/
theorem staged_compiles_iff_nulFree {calls : List Call} (within : CopiesWithinSchemas calls) {name : String}
    (present : (kind.run (fun _ => none) calls).2 name = some e) {t : Tenant} (covers : t.Covers e.schema) :
    (∀ filter, e.deleteRecord.1 = .ok filter → ∃ sql, t.compile (.delete ⟨e.schema.table, [filter]⟩) = .ok [sql]) ∧
      (∀ record, e.insertRecord.1 = .ok record → t.CompilesUnlessNul (.insert ⟨e.schema.table, [record]⟩) record) ∧
      ∀ change, e.updateRecord.1 = .ok change → change.updates.entries ≠ [] →
        t.CompilesUnlessNul (.update ⟨e.schema.table, [change]⟩) change.updates := by
  have coherent : e.Coherent := Reachable.coherent ⟨calls, name, present⟩
  have coerced : e.uncached.Coerced := coerced_of_run within name e present
  obtain ⟨T, listed, admits⟩ := covers.exists_admits
  have takes : T.TakesRecord e.dirtyRecord := fun entry member =>
    (dirtyRecord_takes coerced member).imp_left (admits entry.1)
  have admitted : T.Admits e.schema.idColumn := admits _ e.schema.idColumn_mem_columns
  refine ⟨fun filter made => ?_, fun record made => ?_, fun change made nonempty => ?_⟩
  · obtain ⟨id, rfl⟩ := exists_eq_of_deleteRecord coherent made
    rw [Tenant.compile_delete_single listed, covers.idColumn,
      CatalogTable.deleteStatement_eq_ok_iff.mpr ⟨id, rfl, admitted, rfl⟩]
    exact ⟨_, rfl⟩
  · obtain rfl := eq_dirtyRecord_of_insertRecord coherent made
    refine Tenant.compilesUnlessNul_of_statement (Tenant.compile_insert_single listed _) (fun free => ?_)
      takes.insertStatement_refused
    exact ⟨_, CatalogTable.insertStatement_eq_ok_iff.mpr ⟨takes.admitsRecord_iff.mpr free, rfl⟩⟩
  · obtain ⟨id, rfl⟩ := exists_eq_of_updateRecord coherent made
    have fixed := OrderedMap.not_mem_keys_erase e.dirtyRecord e.schema.idColumn
    have takes := takes.erase e.schema.idColumn
    refine Tenant.compilesUnlessNul_of_statement (Tenant.compile_update_single listed _) (fun free => ?_) fun nul => ?_
    · rw [covers.idColumn]
      exact ⟨_, CatalogTable.updateStatement_eq_ok_iff.mpr
        ⟨id, rfl, admitted, nonempty, fixed, takes.admitsRecord_iff.mpr free, rfl⟩⟩
    · rw [covers.idColumn]
      exact takes.updateStatement_refused nul admitted rfl nonempty fixed

/-- A name that one user copies from another. -/
theorem staged_compiles_of_copy :
    ∃ (schema : Schema) (calls : List Call) (e : Entity) (t : Tenant),
      Schema.build ⟨"User", "users", none, "id", [{ name := "name", type := .string }]⟩ = .ok schema ∧
      calls = [.create "a" schema, .set "a" (.name "name") (.string "Ann"), .create "b" schema, .copy "b" "a" true] ∧
      CopiesWithinSchemas calls ∧ (kind.run (fun _ => none) calls).2 "b" = some e ∧ t.Covers e.schema ∧
      e.insertRecord.1 = .ok ⟨[("name", .string "Ann")]⟩ ∧
      ∃ sql, t.compile (.insert ⟨e.schema.table, [⟨[("name", .string "Ann")]⟩]⟩) = .ok [sql] := by
  have free : Record.IsNulFree ⟨[("name", .string "Ann")]⟩ := by
    intro column text member
    obtain ⟨⟩ := List.mem_singleton.mp member
    decide
  let calls (schema : Schema) : List Call :=
    [.create "a" schema, .set "a" (.name "name") (.string "Ann"), .create "b" schema, .copy "b" "a" true]
  have within (schema : Schema) : CopiesWithinSchemas (calls schema) := by
    have uses : ∀ call ∈ calls schema, call.Uses {schema} := by simp [calls, Call.Uses]
    exact copiesWithinSchemas_of_uses uses
  let users : CatalogTable := ⟨"users", none, [{ name := "id", type := "id" }, { name := "name", type := "string" }]⟩
  let t : Tenant := ⟨⟨"o1", none, [users]⟩, "id"⟩
  obtain ⟨schema, e, built, present, made, idColumn, table, columns⟩ : ∃ (schema : Schema) (e : Entity),
      Schema.build ⟨"User", "users", none, "id", [{ name := "name", type := .string }]⟩ = .ok schema ∧
      (kind.run (fun _ => none) (calls schema)).2 "b" = some e ∧
      e.insertRecord.1 = .ok ⟨[("name", .string "Ann")]⟩ ∧
      e.schema.idColumn = "id" ∧ e.schema.table = "users" ∧ e.schema.columns = ["id", "name"] :=
    ⟨_, _, rfl, rfl, rfl, rfl, rfl, rfl⟩
  have covers : t.Covers e.schema := by
    refine ⟨idColumn.symm, users, ?_, ?_⟩
    · rw [table]
      rfl
    · rw [columns]
      decide
  have compiled := (staged_compiles_iff_nulFree (within schema) present covers).2.1 _ made
  exact ⟨schema, calls schema, e, t, built, rfl, within schema, present, covers, made, compiled.compiles_iff.mpr free⟩

end Entity
end Tenancy
