import Tenancy.Proofs.Catalog.Loading

/-! The columns that a select of a loaded catalog lists. Every table of such a catalog lists the identifier
column, and each of its columns once, whatever the rows of the metadata tell. So the rows that a select
answers with can be loaded as records, to be updated and deleted later. -/
namespace Tenancy

open Sql

namespace CatalogTable

/-- Each column stands once, and the identifier is among the columns. -/
structure IsIdentified (t : CatalogTable) (idColumn : String) : Prop where
  distinct : t.columnNames.Nodup
  identified : idColumn ∈ t.columnNames

/-- The columns of a select of a table: all of them, or the given ones at their first places and then
the identifier if it was not given. -/
structure IsSelectList (t : CatalogTable) (idColumn : String) (fields : FieldList) (columns : List String) :
    Prop where
  distinct : columns.Nodup
  listed : ∀ column ∈ columns, column ∈ t.columnNames
  identified : idColumn ∈ columns
  all : fields = .all → columns = t.columnNames
  given : ∀ names, fields = .columns names →
    columns = names.eraseDups ++ if idColumn ∈ names then [] else [idColumn]

variable {t : CatalogTable} {idColumn : String}

theorem withIdentifier_listedColumns (idColumn : String) (names : List String) :
    withIdentifier idColumn (listedColumns [] names) =
      names.eraseDups ++ if idColumn ∈ names then [] else [idColumn] := by
  have first : listedColumns [] names = names.eraseDups := by simp [listedColumns, foldl_add_unless_known]
  rw [withIdentifier, first]
  by_cases given : idColumn ∈ names <;> simp [given]

theorem nodup_withIdentifier {columns : List String} (distinct : columns.Nodup) :
    (withIdentifier idColumn columns).Nodup := by
  unfold withIdentifier
  split
  · exact distinct
  · rename_i missing
    rw [← List.concat_eq_append]
    exact distinct.concat missing

theorem isSelectList_of_columns {names : List String} (admitted : t.AdmitsFields idColumn (.columns names)) :
    t.IsSelectList idColumn (.columns names) (withIdentifier idColumn (listedColumns [] names)) where
  distinct := by
    apply nodup_withIdentifier
    simpa [listedColumns, foldl_add_unless_known] using nodup_eraseDups names
  listed := by
    intro column member
    obtain ⟨given, missing⟩ := admitted
    rw [withIdentifier_listedColumns] at member
    rcases List.mem_append.mp member with named | appended
    · exact (given column (List.mem_eraseDups.mp named)).listed
    · by_cases named : idColumn ∈ names
      · simp [named] at appended
      · obtain rfl : column = idColumn := by simpa [named] using appended
        exact (missing named).listed
  identified := by
    rw [withIdentifier_listedColumns]
    by_cases named : idColumn ∈ names <;> simp [named]
  all := nofun
  given := by
    rintro _ ⟨⟩
    exact withIdentifier_listedColumns idColumn names

theorem IsIdentified.exists_selectList {fields : FieldList} (sound : t.IsIdentified idColumn)
    (admitted : t.AdmitsFields idColumn fields) (uncounted : fields ≠ .count) :
    ∃ columns, t.selection idColumn fields = .columns columns ∧ t.IsSelectList idColumn fields columns := by
  cases fields with
  | all => exact ⟨_, rfl, sound.distinct, fun _ listed => listed, sound.identified, fun _ => rfl, nofun⟩
  | count => exact absurd rfl uncounted
  | columns names => exact ⟨_, rfl, isSelectList_of_columns admitted⟩

end CatalogTable

namespace Catalog

variable {rows : List Record} {row : Record} {name : String}

/-- A row of a table tells the key of its field by the field. -/
theorem fieldKey_eq_map (told : cell row "tablename" = some name) (complete : Complete row) :
    fieldKey row = (fieldOf row).map fun column => (name, column.name) := by
  have named := names_fieldOf complete
  unfold fieldKey
  rw [told, ← named]
  cases fieldOf row <;> rfl

theorem nodup_columnNames_tableOf (sound : MakeTables rows) (name : String) :
    (tableOf name (rowsOf rows name)).columnNames.Nodup := by
  have own : (rowsOf rows name).filterMap fieldKey =
      (tableOf name (rowsOf rows name)).columnNames.map fun column => (name, column) := by
    rw [CatalogTable.columnNames, tableOf, List.map_map, List.map_filterMap]
    apply List.filterMap_congr
    intro row member
    obtain ⟨listed, told⟩ : row ∈ rows ∧ cell row "tablename" = some name := by simpa [rowsOf] using member
    exact fieldKey_eq_map told (sound.complete row listed (by simp [told]))
  have keys : ((rowsOf rows name).filterMap fieldKey).Nodup :=
    sound.distinct.sublist (List.filter_sublist.filterMap fieldKey)
  rw [own] at keys
  exact keys.of_map

theorem isIdentified_of_load {config : Config} {organization : String} {b : Backend} {c : Catalog}
    {t : CatalogTable} (loaded : (load config organization b).1 = .ok c) (found : c.table? name = some t) :
    t.IsIdentified config.idColumn := by
  obtain ⟨_, sql, rows, _, _, made⟩ := load_eq_ok_iff.mp loaded
  obtain ⟨_, sound, rfl⟩ := ofRows_eq_catalogOf_iff.mp made
  have distinct := nodup_columnNames_tableOf sound name
  have columns := table?_catalogOf found
  rw [CatalogTable.columnNames] at distinct
  by_cases told : config.idColumn ∈ (tableOf name (rowsOf rows name)).columns.map Column.name <;>
    constructor <;> simp [CatalogTable.columnNames, columns, identified, told, distinct]

/-- The text of a select begins with its columns, and commas between them. -/
theorem sql_select_columns (columns : List String) (table : String) (filter : Option Clause) (orderBy : List SortKey)
    (limit : Option UInt64) :
    (Statement.select (.columns columns) table filter orderBy limit).sql =
      "SELECT " ++ ", ".intercalate columns ++ " FROM " ++ table ++ filterSql filter ++ orderBySql orderBy
        ++ limitSql limit := by
  rw [← Text.joined_eq_intercalate]
  rfl

/-- A select of columns of a loaded catalog lists each of its columns once and the identifier among them: the
columns of the table in their order, or the given ones at their first places, with the identifier after them
just where they leave it out. It is with this list that the text of the statement begins. -/
theorem loaded_select_identifies {config : Config} {organization : String} {b : Backend} {c : Catalog}
    {node : Query.Select} {statements : List Statement} (loaded : (load config organization b).1 = .ok c)
    (compiled : c.compile config.idColumn (.select node) = .ok statements) (uncounted : node.fields ≠ .count) :
    ∃ t columns filter orderBy, c.Lists node.table t ∧ t.IsSelectList config.idColumn node.fields columns ∧
      statements = [.select (.columns columns) node.table filter orderBy node.limit] ∧
      statements.map Statement.sql = ["SELECT " ++ ", ".intercalate columns ++ " FROM " ++ node.table
        ++ filterSql filter ++ orderBySql orderBy ++ limitSql node.limit] := by
  obtain ⟨t, listed, accepted, rfl⟩ := compile_select_eq_ok_iff.mp compiled
  have sound := isIdentified_of_load loaded listed.found
  obtain ⟨columns, selected, list⟩ := sound.exists_selectList accepted.fields uncounted
  rw [CatalogTable.selectOf, selected, table?_name listed.found]
  refine ⟨t, columns, _, _, listed, list, rfl, ?_⟩
  rw [List.map_singleton, sql_select_columns]

/-- The metadata leave the identifier out, and the select gives a column twice. -/
theorem loaded_select_identifies_of_repeated :
    ∃ c s, ∃ t : CatalogTable,
      (load { databaseUrl := "" } "o1" ⟨[.rows [⟨[("tablename", .string "users"), ("fldname", .string "age"),
        ("fldtype", .string "number")]⟩, ⟨[("tablename", .string "users"), ("fldname", .string "name"),
        ("fldtype", .string "text")]⟩]], []⟩).1 = .ok c ∧
      c.compile "id" (.select { table := "users", fields := .columns ["name", "age", "name"] }) = .ok [s] ∧
      c.Lists "users" t ∧ t.IsSelectList "id" (.columns ["name", "age", "name"]) ["name", "age", "id"] ∧
      s.sql = "SELECT name, age, id FROM users" := by
  obtain ⟨c, loaded, compiled⟩ : ∃ c,
      (load { databaseUrl := "" } "o1" ⟨[.rows [⟨[("tablename", .string "users"), ("fldname", .string "age"),
        ("fldtype", .string "number")]⟩, ⟨[("tablename", .string "users"), ("fldname", .string "name"),
        ("fldtype", .string "text")]⟩]], []⟩).1 = .ok c ∧
      c.compile "id" (.select { table := "users", fields := .columns ["name", "age", "name"] }) =
        .ok [.select (.columns ["name", "age", "id"]) "users" none [] none] := ⟨_, rfl, rfl⟩
  obtain ⟨t, columns, filter, orderBy, listed, list, same, text⟩ := loaded_select_identifies loaded compiled nofun
  cases same
  have text := List.singleton_inj.mp text
  refine ⟨c, _, t, loaded, compiled, listed, list, text.trans ?_⟩
  decide

end Catalog
end Tenancy
