import Tenancy.Catalog.Metadata
import Tenancy.Proofs.Catalog.Tables

/-! Names in a loaded catalog. The columns of a table have the names that the rows of its fields tell, and
nothing checks these. -/
namespace Tenancy

open Sql

namespace Catalog

/-- A load gives a catalog of the organization that it is asked for. -/
theorem organization_of_load {config : Config} {organization : String} {b : Backend} {c : Catalog}
    (loaded : (load config organization b).1 = .ok c) : c.organization = organization := by
  obtain ⟨_, sql, rows, _, _, made⟩ := load_eq_ok_iff.mp loaded
  obtain ⟨_, _, rfl⟩ := ofRows_eq_catalogOf_iff.mp made
  rfl

theorem forall_identified_iff {idColumn : String} {columns : List Column} {P : String → Prop}
    (holds : P idColumn) :
    (∀ name ∈ (identified idColumn columns).map Column.name, P name) ↔
      ∀ name ∈ columns.map Column.name, P name := by
  unfold identified
  split
  · rfl
  · simp [holds]

theorem table?_catalogOf {idColumn organization : String} {rows : List Record} {name : String}
    {t : CatalogTable} (found : (catalogOf idColumn organization rows).table? name = some t) :
    t.columns = identified idColumn (tableOf name (rowsOf rows name)).columns := by
  have named : (catalogOf idColumn organization rows).table? name = _ := find?_map_named fun _ => rfl
  rw [named] at found
  split at found
  · exact Option.some.inj found ▸ rfl
  · cases found

/-- What is so of all columns of a table is said by the rows of its fields, but for the identifier column. -/
theorem forall_loaded_iff {P : String → Prop} {idColumn organization : String} {rows : List Record}
    {c : Catalog} {name : String} {t : CatalogTable} (loaded : ofRows idColumn organization rows = .ok c)
    (found : c.table? name = some t) (holds : P idColumn) :
    (∀ column ∈ t.columnNames, P column) ↔ ∀ row ∈ rows, cell row "tablename" = some name →
      ∀ field, cell row "fldname" = some field → P field := by
  obtain ⟨_, sound, rfl⟩ := ofRows_eq_catalogOf_iff.mp loaded
  rw [CatalogTable.columnNames, table?_catalogOf found, forall_identified_iff holds, ← CatalogTable.columnNames]
  simp only [← mem_fieldKeys_iff sound.complete, List.mem_filterMap, fieldKey_eq_some_iff]
  constructor
  · intro columns row member told field named
    exact columns field ⟨row, member, told, named⟩
  · rintro fields field ⟨row, member, told, named⟩
    exact fields row member told field named

/-- Names from the metadata are not checked. Every name that the statements of a query hold is plain
just when the statements list no column of the table, or the rows of the table name plain fields only. -/
theorem loaded_names_isName_iff {config : Config} {organization : String} {b : Backend} {rows : List Record}
    {queued : List Reply} {c : Catalog} {q : Query} {statements : List Statement}
    (idNamed : isName config.idColumn = true) (replied : b.queued = .rows rows :: queued)
    (loaded : (load config organization b).1 = .ok c)
    (compiled : c.compile config.idColumn q = .ok statements) :
    (∀ s ∈ statements, ∀ name ∈ s.names, isName name = true) ↔
      (q.ListsAll → ∀ row ∈ rows, cell row "tablename" = some q.table →
        ∀ field, cell row "fldname" = some field → isName field = true) := by
  obtain ⟨_, sql, rows', _, answered, made⟩ := load_eq_ok_iff.mp loaded
  obtain rfl : rows' = rows := by simpa [Backend.execute, replied] using answered.symm
  obtain ⟨t, listed⟩ := exists_lists_of_compile compiled
  rw [names_isName_iff compiled listed, forall_loaded_iff made listed.found idNamed]

/-- Rows that name plain fields are enough. -/
theorem loaded_names_isName_of_plain_field :
    ∃ c statements, (load { databaseUrl := "" } "o1" ⟨[.rows [⟨[("tablename", .string "users"),
        ("fldname", .string "age"), ("fldtype", .string "number")]⟩]], []⟩).1 = .ok c ∧
      c.compile "id" (.insert ⟨"users", [⟨[]⟩]⟩) = .ok statements ∧
      ∀ s ∈ statements, ∀ name ∈ s.names, isName name = true := by
  let c : Catalog := ⟨"o1", none, [⟨"users", none, [
    { name := "id", type := "id", sqlType := some "text", notNull := true },
    { name := "age", type := "number" }]⟩]⟩
  have loaded : (load { databaseUrl := "" } "o1" ⟨[.rows [⟨[("tablename", .string "users"),
      ("fldname", .string "age"), ("fldtype", .string "number")]⟩]], []⟩).1 = .ok c := by rfl
  have compiled : c.compile "id" (.insert ⟨"users", [⟨[]⟩]⟩) = .ok [.insert "users" [] ["id", "age"]] := by
    rfl
  refine ⟨c, _, loaded, compiled, (loaded_names_isName_iff (by decide) rfl loaded compiled).mpr ?_⟩
  intro _
  rw [List.forall_mem_singleton]
  intro _ field named
  obtain rfl : "age" = field := Option.some.inj named
  decide

/-- A field may be named as a statement is written, and its name is written where all columns are. -/
theorem loaded_name_not_isName :
    ∃ c s, (load { databaseUrl := "" } "o1" ⟨[.rows [⟨[("tablename", .string "users"),
        ("fldname", .string "Age; DROP TABLE users; --"), ("fldtype", .string "number")]⟩]], []⟩).1 = .ok c ∧
      c.compile "id" (.select { table := "users" }) = .ok [s] ∧
      s.sql = "SELECT id, Age; DROP TABLE users; -- FROM users" ∧
      ¬ ∀ name ∈ s.names, isName name = true := by
  refine ⟨_, _, rfl, rfl, rfl, ?_⟩
  intro named
  exact absurd (named "Age; DROP TABLE users; --" (by decide)) (by decide)

end Catalog

namespace CatalogCache

/-- The catalogs after a load, which changes nothing if it fails. -/
def keepLoaded (cache : CatalogCache) : Checked Catalog → CatalogCache
  | .ok c => cache.keep c
  | .error _ => cache

theorem getOrLoad_of_absent {cache : CatalogCache} {organization : String} (config : Config) (b : Backend)
    (absent : cache.get? organization = none) :
    cache.getOrLoad config organization b = ((Catalog.load config organization b).1,
      cache.keepLoaded (Catalog.load config organization b).1, (Catalog.load config organization b).2) := by
  rw [getOrLoad, absent]
  rcases Catalog.load config organization b with ⟨_ | _, _⟩ <;> rfl

end CatalogCache
end Tenancy
