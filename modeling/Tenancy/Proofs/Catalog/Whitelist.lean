import Tenancy.Proofs.Catalog.Admission

/-! Which queries compile against a catalog, and to how many statements of what text. Selects and
inserts are limited to the listed tables and columns; an update or a delete reaches only the one
record that each of its conditions names. -/
namespace Tenancy

open Sql

namespace CatalogTable

structure AcceptsSelect (t : CatalogTable) (idColumn : String) (node : Query.Select) : Prop where
  fields : t.AdmitsFields idColumn node.fields
  filter : ∀ condition ∈ node.filter, condition.toOperand.Accepted t
  orderBy : ∀ entry ∈ node.orderBy, t.AdmitsSort entry
  limit : node.limit ≠ some 0

/-- Exactly an equality of the identifier column with fifteen ASCII letters and digits. -/
structure AcceptsIdFilter (t : CatalogTable) (idColumn : String) (condition : Condition) : Prop where
  equality : ∃ text : String, text.toList.length = 15 ∧ (∀ c ∈ text.toList, c.isAlphanum = true) ∧
    condition = idCondition idColumn text
  admitted : t.Admits idColumn

structure AcceptsChange (t : CatalogTable) (idColumn : String) (change : Query.Change) : Prop where
  filter : t.AcceptsIdFilter idColumn change.filter
  nonempty : change.updates.entries ≠ []
  fixed : idColumn ∉ change.updates.keys
  record : t.AdmitsRecord change.updates

def selectOf (t : CatalogTable) (idColumn : String) (node : Query.Select) : Statement :=
  .select (t.selection idColumn node.fields) t.name
    (node.filter.map fun condition => condition.toOperand.clause .left) (node.orderBy.map keyOf) node.limit

def insertOf (t : CatalogTable) (record : Record) : Statement :=
  .insert t.name (record.entries.map assigned) t.columnNames

/-- The statement that changes the record of an identifier. -/
def IsUpdateOf (t : CatalogTable) (idColumn : String) (change : Query.Change) (s : Statement) : Prop :=
  ∃ id : RecordId, change.filter = idCondition idColumn id.text ∧
    s = .update t.name (change.updates.entries.map assigned) idColumn id t.columnNames

def IsDeleteOf (t : CatalogTable) (idColumn : String) (condition : Condition) (s : Statement) : Prop :=
  ∃ id : RecordId, condition = idCondition idColumn id.text ∧ s = .delete t.name idColumn id t.columnNames

variable {t : CatalogTable} {idColumn : String}

theorem acceptsIdFilter_iff {condition : Condition} :
    t.AcceptsIdFilter idColumn condition ↔
      (∃ id : RecordId, condition = idCondition idColumn id.text) ∧ t.Admits idColumn := by
  constructor
  · rintro ⟨⟨text, length, alphanumeric, same⟩, admitted⟩
    have wellFormed : RecordId.isWellFormed text = true := by
      simp only [RecordId.isWellFormed, Bool.and_eq_true, decide_eq_true_eq, List.all_eq_true]
      exact ⟨length, alphanumeric⟩
    exact ⟨⟨⟨text, wellFormed⟩, same⟩, admitted⟩
  · rintro ⟨⟨id, same⟩, admitted⟩
    have wellFormed := id.wellFormed
    simp only [RecordId.isWellFormed, Bool.and_eq_true, decide_eq_true_eq, List.all_eq_true] at wellFormed
    exact ⟨⟨id.text, wellFormed.1, wellFormed.2, same⟩, admitted⟩

theorem updateStatement_iff {change : Query.Change} {s : Statement} :
    t.updateStatement idColumn change = .ok s ↔
      t.AcceptsChange idColumn change ∧ t.IsUpdateOf idColumn change s := by
  rw [updateStatement_eq_ok_iff]
  constructor
  · rintro ⟨id, same, admitted, nonempty, fixed, record, rfl⟩
    exact ⟨⟨acceptsIdFilter_iff.mpr ⟨⟨id, same⟩, admitted⟩, nonempty, fixed, record⟩, id, same, rfl⟩
  · rintro ⟨⟨filter, nonempty, fixed, record⟩, id, same, rfl⟩
    exact ⟨id, same, filter.admitted, nonempty, fixed, record, rfl⟩

theorem deleteStatement_iff {condition : Condition} {s : Statement} :
    t.deleteStatement idColumn condition = .ok s ↔
      t.AcceptsIdFilter idColumn condition ∧ t.IsDeleteOf idColumn condition s := by
  rw [deleteStatement_eq_ok_iff]
  constructor
  · rintro ⟨id, same, admitted, rfl⟩
    exact ⟨acceptsIdFilter_iff.mpr ⟨⟨id, same⟩, admitted⟩, id, same, rfl⟩
  · rintro ⟨filter, id, same, rfl⟩
    exact ⟨id, same, filter.admitted, rfl⟩

/-- An accepted change has a statement, so acceptance alone decides whether it compiles. -/
theorem exists_updateStatement_iff {change : Query.Change} :
    (∃ s, t.updateStatement idColumn change = .ok s) ↔ t.AcceptsChange idColumn change := by
  simp only [updateStatement_iff, exists_and_left, and_iff_left_iff_imp]
  intro accepted
  obtain ⟨⟨id, same⟩, _⟩ := acceptsIdFilter_iff.mp accepted.filter
  exact ⟨_, id, same, rfl⟩

theorem exists_deleteStatement_iff {condition : Condition} :
    (∃ s, t.deleteStatement idColumn condition = .ok s) ↔ t.AcceptsIdFilter idColumn condition := by
  simp only [deleteStatement_iff, exists_and_left, and_iff_left_iff_imp]
  intro accepted
  obtain ⟨⟨id, same⟩, _⟩ := acceptsIdFilter_iff.mp accepted
  exact ⟨_, id, same, rfl⟩

end CatalogTable

theorem checkLimit_eq_ok_iff {limit result : Option UInt64} :
    checkLimit limit = .ok result ↔ limit ≠ some 0 ∧ result = limit := by
  cases limit with
  | none => simp [checkLimit, eq_comm]
  | some limit => by_cases zero : limit = 0 <;> simp [checkLimit, refuse, zero, eq_comm]

namespace Catalog

variable {c : Catalog} {idColumn : String} {statements : List Statement}

theorem compile_select_eq_ok_iff {node : Query.Select} :
    c.compile idColumn (.select node) = .ok statements ↔
      ∃ t, c.Lists node.table t ∧ t.AcceptsSelect idColumn node ∧ statements = [t.selectOf idColumn node] := by
  simp only [compile, selectStatement, bind_eq_ok_iff, pure_eq_ok_iff, checkTable_eq_ok_iff,
    CatalogTable.selected_eq_ok_iff, checkLimit_eq_ok_iff,
    option_mapM_eq_ok_iff_map (fun _ _ => CatalogTable.filter_eq_ok_iff),
    mapM_eq_ok_iff_map (fun _ _ => CatalogTable.sortKey_eq_ok_iff)]
  constructor
  · rintro ⟨_, ⟨t, listed, _, ⟨fields, rfl⟩, _, ⟨filter, rfl⟩, _, ⟨orderBy, rfl⟩, _, ⟨limit, rfl⟩, rfl⟩, rfl⟩
    exact ⟨t, listed, ⟨fields, filter, orderBy, limit⟩, rfl⟩
  · rintro ⟨t, listed, ⟨fields, filter, orderBy, limit⟩, rfl⟩
    exact ⟨_, ⟨t, listed, _, ⟨fields, rfl⟩, _, ⟨filter, rfl⟩, _, ⟨orderBy, rfl⟩, _, ⟨limit, rfl⟩, rfl⟩, rfl⟩

theorem compile_insert_eq_ok_iff {node : Query.Insert} :
    c.compile idColumn (.insert node) = .ok statements ↔
      ∃ t, c.Lists node.table t ∧ (∀ record ∈ node.records, t.AdmitsRecord record) ∧
        statements = node.records.map t.insertOf := by
  simp only [compile, bind_eq_ok_iff, checkTable_eq_ok_iff,
    mapM_eq_ok_iff_map (fun _ _ => CatalogTable.insertStatement_eq_ok_iff)]
  rfl

theorem compile_update_eq_ok_iff {node : Query.Update} :
    c.compile idColumn (.update node) = .ok statements ↔
      ∃ t, c.Lists node.table t ∧ List.Forall₂ (fun change s =>
        t.AcceptsChange idColumn change ∧ t.IsUpdateOf idColumn change s) node.records statements := by
  simp only [compile, bind_eq_ok_iff, checkTable_eq_ok_iff, mapM_eq_ok_iff,
    CatalogTable.updateStatement_iff]

theorem compile_delete_eq_ok_iff {node : Query.Delete} :
    c.compile idColumn (.delete node) = .ok statements ↔
      ∃ t, c.Lists node.table t ∧ List.Forall₂ (fun condition s =>
        t.AcceptsIdFilter idColumn condition ∧ t.IsDeleteOf idColumn condition s) node.filters statements := by
  simp only [compile, bind_eq_ok_iff, checkTable_eq_ok_iff, mapM_eq_ok_iff,
    CatalogTable.deleteStatement_iff]

theorem exists_lists_of_compile {q : Query} (compiled : c.compile idColumn q = .ok statements) :
    ∃ t, c.Lists q.table t := by
  cases q with
  | select node =>
    obtain ⟨t, listed, _⟩ := compile_select_eq_ok_iff.mp compiled
    exact ⟨t, listed⟩
  | insert node =>
    obtain ⟨t, listed, _⟩ := compile_insert_eq_ok_iff.mp compiled
    exact ⟨t, listed⟩
  | update node =>
    obtain ⟨t, listed, _⟩ := compile_update_eq_ok_iff.mp compiled
    exact ⟨t, listed⟩
  | delete node =>
    obtain ⟨t, listed, _⟩ := compile_delete_eq_ok_iff.mp compiled
    exact ⟨t, listed⟩

end Catalog

/-! The texts of the statements that change records. -/
namespace CatalogTable

variable (t : CatalogTable)

def insertSql (record : Record) : String :=
  (if record.entries = [] then "INSERT INTO " ++ t.name ++ " DEFAULT VALUES"
    else "INSERT INTO " ++ t.name ++ " (" ++ Text.commaSeparated record.keys ++ ") VALUES ("
      ++ Text.commaSeparated (record.entries.map fun entry => entry.2.literal.sql) ++ ")")
    ++ returningSql t.columnNames

def updateSql (idColumn id : String) (updates : Record) : String :=
  "UPDATE " ++ t.name ++ " SET "
    ++ Text.commaSeparated (updates.entries.map fun entry => entry.1 ++ "=" ++ entry.2.literal.sql)
    ++ " WHERE (" ++ (idColumn ++ "='" ++ id ++ "'") ++ ")" ++ returningSql t.columnNames

def deleteSql (idColumn id : String) : String :=
  "DELETE FROM " ++ t.name ++ " WHERE (" ++ (idColumn ++ "='" ++ id ++ "'") ++ ")"
    ++ returningSql t.columnNames

theorem insertOf_sql (record : Record) : (t.insertOf record).sql = t.insertSql record := by
  rcases record with ⟨entries⟩
  cases entries with
  | nil => rfl
  | cons entry rest =>
    simp [insertOf, insertSql, Statement.sql_insert, assigned, OrderedMap.keys, Function.comp_def]

/-- Identifiers hold no quotes, so they stand in a statement as they are. -/
theorem idFilterSql_eq (idColumn : String) (id : RecordId) :
    idFilterSql idColumn id = idColumn ++ "='" ++ id.text ++ "'" := by
  have unquoted : '\'' ∉ id.text.toList := by
    intro quote
    have wellFormed := id.wellFormed
    simp only [RecordId.isWellFormed, Bool.and_eq_true, List.all_eq_true] at wellFormed
    exact absurd (wellFormed.2 _ quote) (by decide)
  rw [idFilterSql, quotedText_eq unquoted]
  apply String.toList_injective
  simp

variable {t}

theorem IsUpdateOf.sql {idColumn : String} {change : Query.Change} {s : Statement}
    (update : t.IsUpdateOf idColumn change s) :
    ∃ id, change.filter = idCondition idColumn id ∧ s.sql = t.updateSql idColumn id change.updates := by
  obtain ⟨id, same, rfl⟩ := update
  refine ⟨id.text, same, ?_⟩
  rw [Statement.sql_update, idFilterSql_eq, List.map_map]
  rfl

theorem IsDeleteOf.sql {idColumn : String} {condition : Condition} {s : Statement}
    (delete : t.IsDeleteOf idColumn condition s) :
    ∃ id, condition = idCondition idColumn id ∧ s.sql = t.deleteSql idColumn id := by
  obtain ⟨id, same, rfl⟩ := delete
  refine ⟨id.text, same, ?_⟩
  rw [Statement.sql_delete, idFilterSql_eq]
  rfl

end CatalogTable

namespace Catalog

/-- Selects and inserts compile just when they stay within the lists of the catalog, a select to one
statement and an insert to one for each record, in order. -/
theorem select_insert_compile_iff_whitelisted (c : Catalog) (idColumn : String) :
    (∀ node : Query.Select,
      ((∃ statements, c.compile idColumn (.select node) = .ok statements) ↔
        ∃ t, c.Lists node.table t ∧ t.AcceptsSelect idColumn node) ∧
      ∀ statements, c.compile idColumn (.select node) = .ok statements →
        ∃ t, c.Lists node.table t ∧ statements = [t.selectOf idColumn node]) ∧
    ∀ node : Query.Insert,
      ((∃ statements, c.compile idColumn (.insert node) = .ok statements) ↔
        ∃ t, c.Lists node.table t ∧ ∀ record ∈ node.records, t.AdmitsRecord record) ∧
      ∀ statements, c.compile idColumn (.insert node) = .ok statements →
        ∃ t, c.Lists node.table t ∧ statements.map Statement.sql = node.records.map t.insertSql := by
  simp only [compile_select_eq_ok_iff, compile_insert_eq_ok_iff]
  refine ⟨fun node => ⟨?_, ?_⟩, fun node => ⟨?_, ?_⟩⟩
  · constructor
    · rintro ⟨_, t, listed, accepted, _⟩
      exact ⟨t, listed, accepted⟩
    · rintro ⟨t, listed, accepted⟩
      exact ⟨_, t, listed, accepted, rfl⟩
  · rintro statements ⟨t, listed, _, rfl⟩
    exact ⟨t, listed, rfl⟩
  · constructor
    · rintro ⟨_, t, listed, admitted, _⟩
      exact ⟨t, listed, admitted⟩
    · rintro ⟨t, listed, admitted⟩
      exact ⟨_, t, listed, admitted, rfl⟩
  · rintro statements ⟨t, listed, _, rfl⟩
    refine ⟨t, listed, ?_⟩
    rw [List.map_map]
    exact List.map_congr_left fun record _ => t.insertOf_sql record

theorem exists_compile_update_iff {c : Catalog} {idColumn : String} {node : Query.Update} :
    (∃ statements, c.compile idColumn (.update node) = .ok statements) ↔
      ∃ t, c.Lists node.table t ∧ ∀ change ∈ node.records, t.AcceptsChange idColumn change := by
  simp only [compile, bind_eq_ok_iff, checkTable_eq_ok_iff]
  rw [exists_comm]
  simp only [exists_and_left, exists_mapM_eq_ok_iff, CatalogTable.exists_updateStatement_iff]

theorem exists_compile_delete_iff {c : Catalog} {idColumn : String} {node : Query.Delete} :
    (∃ statements, c.compile idColumn (.delete node) = .ok statements) ↔
      ∃ t, c.Lists node.table t ∧ ∀ condition ∈ node.filters, t.AcceptsIdFilter idColumn condition := by
  simp only [compile, bind_eq_ok_iff, checkTable_eq_ok_iff]
  rw [exists_comm]
  simp only [exists_and_left, exists_mapM_eq_ok_iff, CatalogTable.exists_deleteStatement_iff]

theorem Lists.unique {c : Catalog} {name : String} {t t' : CatalogTable} (listed : c.Lists name t)
    (listed' : c.Lists name t') : t = t' :=
  Option.some.inj (listed.found.symm.trans listed'.found)

/-- An update or a delete compiles just when each of its records is named by its identifier and
nothing else, and then to one statement for each, in order. One record that is not refuses all. -/
theorem update_delete_compile_iff_named (c : Catalog) (idColumn : String) :
    (∀ node : Query.Update,
      ((∃ statements, c.compile idColumn (.update node) = .ok statements) ↔
        ∃ t, c.Lists node.table t ∧ ∀ change ∈ node.records, t.AcceptsChange idColumn change) ∧
      (∀ statements, c.compile idColumn (.update node) = .ok statements →
        ∃ t, c.Lists node.table t ∧ List.Forall₂ (fun change s => ∃ id,
          change.filter = CatalogTable.idCondition idColumn id ∧
          s = t.updateSql idColumn id change.updates) node.records (statements.map Statement.sql)) ∧
      ∀ t, c.Lists node.table t → ∀ change ∈ node.records, ¬ t.AcceptsChange idColumn change →
        ∃ error, c.compile idColumn (.update node) = .error error) ∧
    ∀ node : Query.Delete,
      ((∃ statements, c.compile idColumn (.delete node) = .ok statements) ↔
        ∃ t, c.Lists node.table t ∧ ∀ condition ∈ node.filters, t.AcceptsIdFilter idColumn condition) ∧
      (∀ statements, c.compile idColumn (.delete node) = .ok statements →
        ∃ t, c.Lists node.table t ∧ List.Forall₂ (fun condition s => ∃ id,
          condition = CatalogTable.idCondition idColumn id ∧ s = t.deleteSql idColumn id)
          node.filters (statements.map Statement.sql)) ∧
      ∀ t, c.Lists node.table t → ∀ condition ∈ node.filters, ¬ t.AcceptsIdFilter idColumn condition →
        ∃ error, c.compile idColumn (.delete node) = .error error := by
  refine ⟨fun node => ⟨exists_compile_update_iff, ?_, ?_⟩, fun node => ⟨exists_compile_delete_iff, ?_, ?_⟩⟩
  · intro statements compiled
    obtain ⟨t, listed, each⟩ := compile_update_eq_ok_iff.mp compiled
    exact ⟨t, listed, List.forall₂_map_right_iff.mpr (each.imp fun _ _ update => update.2.sql)⟩
  · intro t listed change member refused
    apply eq_error_of_ne_ok
    rw [exists_compile_update_iff]
    rintro ⟨t', listed', accepted⟩
    obtain rfl := listed.unique listed'
    exact refused (accepted change member)
  · intro statements compiled
    obtain ⟨t, listed, each⟩ := compile_delete_eq_ok_iff.mp compiled
    exact ⟨t, listed, List.forall₂_map_right_iff.mpr (each.imp fun _ _ delete => delete.2.sql)⟩
  · intro t listed condition member refused
    apply eq_error_of_ne_ok
    rw [exists_compile_delete_iff]
    rintro ⟨t', listed', accepted⟩
    obtain rfl := listed.unique listed'
    exact refused (accepted condition member)

end Catalog
end Tenancy
