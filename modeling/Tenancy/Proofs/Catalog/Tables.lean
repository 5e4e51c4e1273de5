import Tenancy.Proofs.Catalog.Injection
import Tenancy.Proofs.FirstPlaces

/-! The tables of a loaded catalog, told by all rows at once. Each is made of its own rows, wherever these stand
among the others, and the tables come in the order in which the rows first mention them. -/
namespace Tenancy

open Sql

theorem filterMap_singleton {α β : Type} (f : α → Option β) (item : α) :
    [item].filterMap f = (f item).toList := by
  cases made : f item <;> simp [made]

section Named

variable {α : Type} {name : α → String} {f g : String → α} {names : List String} {key : String}

theorem find?_map_named (named : ∀ n, name (f n) = n) :
    (names.map f).find? (fun item => name item = key) = if key ∈ names then some (f key) else none := by
  induction names with
  | nil => simp
  | cons first names ih =>
    by_cases same : first = key
    · simp [same, named]
    · simp [same, named, ih, Ne.symm same]

/-- An item that is put among others of distinct names changes no other one. -/
theorem putNamed_map (named : ∀ n, name (f n) = n) (named' : ∀ n, name (g n) = n) (distinct : names.Nodup)
    (kept : ∀ n ≠ key, f n = g n) :
    putNamed name (g key) (names.map f) = (if key ∈ names then names else names ++ [key]).map g := by
  induction names with
  | nil => simp [putNamed]
  | cons first names ih =>
    obtain ⟨fresh, distinct⟩ := List.nodup_cons.mp distinct
    rw [List.map_cons, putNamed, named, named']
    by_cases same : first = key
    · subst same
      have others : names.map f = names.map g := by
        apply List.map_congr_left
        intro n member
        exact kept n (ne_of_mem_of_not_mem member fresh)
      simp [others]
    · rw [if_neg same, ih distinct, kept first same]
      by_cases member : key ∈ names
      · simp [member]
      · simp [member, Ne.symm same]

end Named

namespace Catalog

/-- The column that a row tells of. -/
def fieldOf (row : Record) : Option Column :=
  match cell row "fldname", cell row "fldtype" with
  | some name, some type => some (columnOf row name type)
  | _, _ => none

/-- A row tells of a field by its name and its type, or of none by neither. -/
def Complete (row : Record) : Prop := (cell row "fldname").isSome = (cell row "fldtype").isSome

theorem names_fieldOf {row : Record} (complete : Complete row) :
    (fieldOf row).map Column.name = cell row "fldname" := by
  unfold Complete at complete
  unfold fieldOf
  cases named : cell row "fldname" <;> cases typed : cell row "fldtype" <;> simp_all [columnOf]

theorem addColumn_eq_ok_iff {t t' : CatalogTable} {column : Column} :
    t.addColumn column = .ok t' ↔
      column.name ∉ t.columnNames ∧ t' = { t with columns := t.columns ++ [column] } := by
  rw [CatalogTable.addColumn, ← hasColumn_iff]
  by_cases listed : t.hasColumn column.name = true
  · simp [listed, refuse]
  · rw [if_neg listed, Except.ok.injEq, and_iff_right listed]
    exact eq_comm

theorem extendTable_eq_ok_iff {t t' : CatalogTable} {row : Record} :
    extendTable t row = .ok t' ↔ Complete row ∧ (∀ column ∈ fieldOf row, column.name ∉ t.columnNames) ∧
      t' = { t with columns := t.columns ++ (fieldOf row).toList } := by
  unfold extendTable Complete fieldOf
  cases cell row "fldname" with
  | none =>
    cases cell row "fldtype" with
    | none => simp [eq_comm (a := t)]
    | some _ => simp [refuse]
  | some name =>
    cases cell row "fldtype" with
    | none => simp [refuse]
    | some type => simp [addColumn_eq_ok_iff, columnOf]

/-- The table that a row extends, as it is before. -/
def tableFor (c : Catalog) (row : Record) (name : String) : CatalogTable :=
  (c.table? name).getD { name, tableSpace := cell row "tableschema" }

theorem addRow_eq_ok_iff {c c' : Catalog} {row : Record} {name : String}
    (told : cell row "tablename" = some name) :
    c.addRow row = .ok c' ↔ Complete row ∧
      (∀ column ∈ fieldOf row, column.name ∉ (c.tableFor row name).columnNames) ∧
      c' = c.withTable { c.tableFor row name with
        columns := (c.tableFor row name).columns ++ (fieldOf row).toList } := by
  simp only [addRow, told, bind_eq_ok_iff, pure_eq_ok_iff, extendTable_eq_ok_iff]
  constructor
  · rintro ⟨_, ⟨complete, fresh, rfl⟩, rfl⟩
    exact ⟨complete, fresh, rfl⟩
  · rintro ⟨complete, fresh, rfl⟩
    exact ⟨_, ⟨complete, fresh, rfl⟩, rfl⟩

/-- The columns of a table, or none where the catalog does not have it. -/
def columnsOf (c : Catalog) (name : String) : List Column := (c.table? name).elim [] CatalogTable.columns

theorem tableFor_columns {c : Catalog} {row : Record} {name : String} :
    (c.tableFor row name).columns = c.columnsOf name := by
  unfold tableFor columnsOf
  cases c.table? name <;> rfl

def rowsOf (rows : List Record) (name : String) : List Record :=
  rows.filter fun row => cell row "tablename" = some name

/-- The names of the tables, each at its first mention. -/
def mentioned (rows : List Record) : List String :=
  (rows.filterMap fun row => cell row "tablename").eraseDups

/-- The table that its own rows tell of. -/
def tableOf (name : String) (rows : List Record) : CatalogTable where
  name := name
  tableSpace := rows.head?.bind fun row => cell row "tableschema"
  columns := rows.filterMap fieldOf

/-- A catalog with the tables that rows tell of. -/
def told (c : Catalog) (rows : List Record) : Catalog :=
  { c with tables := (mentioned rows).map fun name => tableOf name (rowsOf rows name) }

/-- The field that a row names, with its table. -/
def fieldKey (row : Record) : Option (String × String) :=
  match cell row "tablename", cell row "fldname" with
  | some name, some field => some (name, field)
  | _, _ => none

/-- Rows that make tables: no field is told by half, and none is told twice. -/
structure MakeTables (rows : List Record) : Prop where
  complete : ∀ row ∈ rows, (cell row "tablename").isSome = true → Complete row
  distinct : (rows.filterMap fieldKey).Nodup

variable {c c' : Catalog} {seen rows rows' : List Record} {row : Record} {name : String}

theorem rowsOf_concat (same : cell row "tablename" = some name) :
    rowsOf (seen ++ [row]) name = rowsOf seen name ++ [row] := by
  simp [rowsOf, same]

theorem rowsOf_concat_other (other : cell row "tablename" ≠ some name) :
    rowsOf (seen ++ [row]) name = rowsOf seen name := by
  simp [rowsOf, other]

theorem mem_mentioned_iff : name ∈ mentioned rows ↔ rowsOf rows name ≠ [] := by
  simp [mentioned, rowsOf]

theorem rowsOf_eq_nil (fresh : name ∉ mentioned rows) : rowsOf rows name = [] :=
  not_not.mp (mt mem_mentioned_iff.mpr fresh)

theorem mentioned_concat (same : cell row "tablename" = some name) :
    mentioned (seen ++ [row]) = if name ∈ mentioned seen then mentioned seen else mentioned seen ++ [name] := by
  simp only [mentioned, List.filterMap_append, filterMap_singleton, same, Option.toList_some, eraseDups_concat,
    List.mem_eraseDups]

theorem mentioned_concat_none (none : cell row "tablename" = none) :
    mentioned (seen ++ [row]) = mentioned seen := by
  simp [mentioned, none]

theorem table?_told : (c.told seen).table? name =
    if name ∈ mentioned seen then some (tableOf name (rowsOf seen name)) else none :=
  find?_map_named fun _ => rfl

theorem columnsOf_told : (c.told seen).columnsOf name = (tableOf name (rowsOf seen name)).columns := by
  rw [columnsOf, table?_told]
  by_cases mention : name ∈ mentioned seen
  · simp [mention]
  · simp [mention, tableOf, rowsOf_eq_nil mention]

theorem tableFor_told (same : cell row "tablename" = some name) :
    { (c.told seen).tableFor row name with
      columns := ((c.told seen).tableFor row name).columns ++ (fieldOf row).toList } =
      tableOf name (rowsOf (seen ++ [row]) name) := by
  rw [tableFor_columns, columnsOf_told, tableOf, ← filterMap_singleton, ← List.filterMap_append,
    rowsOf_concat same, tableFor, table?_told]
  by_cases mention : name ∈ mentioned seen
  · obtain ⟨first, rest, own⟩ := List.exists_cons_of_ne_nil (mem_mentioned_iff.mp mention)
    simp [mention, tableOf, own]
  · simp [mention, tableOf, rowsOf_eq_nil mention]

theorem withTable_told (same : cell row "tablename" = some name) :
    (c.told seen).withTable (tableOf name (rowsOf (seen ++ [row]) name)) = c.told (seen ++ [row]) := by
  have kept : ∀ n ≠ name, tableOf n (rowsOf seen n) = tableOf n (rowsOf (seen ++ [row]) n) := by
    intro n other
    rw [rowsOf_concat_other]
    simp [same, Ne.symm other]
  have put : putNamed CatalogTable.name (tableOf name (rowsOf (seen ++ [row]) name)) (c.told seen).tables =
      (c.told (seen ++ [row])).tables := by
    rw [told, told, mentioned_concat same]
    exact putNamed_map (fun _ => rfl) (fun _ => rfl) (nodup_eraseDups _) kept
  rw [withTable, put]
  rfl

theorem fieldKey_eq_some_iff {field : String} :
    fieldKey row = some (name, field) ↔ cell row "tablename" = some name ∧ cell row "fldname" = some field := by
  unfold fieldKey
  cases cell row "tablename" <;> cases cell row "fldname" <;> simp

theorem mem_fieldKey_iff (complete : Complete row) {field : String} :
    (name, field) ∈ fieldKey row ↔
      cell row "tablename" = some name ∧ ∃ column ∈ fieldOf row, column.name = field := by
  rw [Option.mem_def, fieldKey_eq_some_iff, ← names_fieldOf complete, Option.map_eq_some_iff]
  rfl

/-- The fields of a table name its columns. -/
theorem mem_fieldKeys_iff (complete : ∀ row ∈ rows, (cell row "tablename").isSome = true → Complete row)
    {field : String} :
    (name, field) ∈ rows.filterMap fieldKey ↔ field ∈ (tableOf name (rowsOf rows name)).columnNames := by
  have complete {row : Record} (member : row ∈ rows) (same : cell row "tablename" = some name) : Complete row :=
    complete row member (by rw [same]; rfl)
  simp only [List.mem_filterMap, tableOf, CatalogTable.columnNames, List.mem_map, rowsOf, List.mem_filter,
    decide_eq_true_eq]
  constructor
  · rintro ⟨row, member, key⟩
    have same := (fieldKey_eq_some_iff.mp key).1
    obtain ⟨_, column, made, rfl⟩ := (mem_fieldKey_iff (complete member same)).mp key
    exact ⟨column, ⟨row, ⟨member, same⟩, made⟩, rfl⟩
  · rintro ⟨column, ⟨row, ⟨member, same⟩, made⟩, rfl⟩
    exact ⟨row, member, (mem_fieldKey_iff (complete member same)).mpr ⟨same, column, made, rfl⟩⟩

theorem MakeTables.nil : MakeTables [] := ⟨nofun, .nil⟩

theorem makeTables_concat_iff (sound : MakeTables seen) :
    MakeTables (seen ++ [row]) ↔ ((cell row "tablename").isSome = true → Complete row) ∧
      ∀ key ∈ fieldKey row, key ∉ seen.filterMap fieldKey := by
  have complete : (∀ other ∈ seen ++ [row], (cell other "tablename").isSome = true → Complete other) ↔
      ((cell row "tablename").isSome = true → Complete row) := by
    rw [List.forall_mem_append, List.forall_mem_singleton, and_iff_right sound.complete]
  have distinct : ((seen ++ [row]).filterMap fieldKey).Nodup ↔
      ∀ key ∈ fieldKey row, key ∉ seen.filterMap fieldKey := by
    rw [List.filterMap_append, filterMap_singleton]
    cases fieldKey row with
    | none => simp [sound.distinct]
    | some key =>
      rw [Option.toList_some, ← List.concat_eq_append, List.nodup_concat]
      simp [sound.distinct]
  rw [← complete, ← distinct]
  exact ⟨fun whole => ⟨whole.complete, whole.distinct⟩, fun ⟨complete, distinct⟩ => ⟨complete, distinct⟩⟩

theorem MakeTables.of_append (sound : MakeTables (seen ++ rows)) : MakeTables seen where
  complete row member := sound.complete row (List.mem_append_left _ member)
  distinct := by
    have distinct := sound.distinct
    rw [List.filterMap_append] at distinct
    exact distinct.of_append_left

theorem fresh_told_iff (sound : MakeTables seen) (same : cell row "tablename" = some name)
    (complete : Complete row) :
    (∀ column ∈ fieldOf row, column.name ∉ ((c.told seen).tableFor row name).columnNames) ↔
      ∀ key ∈ fieldKey row, key ∉ seen.filterMap fieldKey := by
  rw [CatalogTable.columnNames, tableFor_columns, columnsOf_told]
  constructor
  · rintro fresh ⟨table, field⟩ key listed
    obtain ⟨same', column, made, rfl⟩ := (mem_fieldKey_iff complete).mp key
    obtain rfl : name = table := Option.some.inj (same.symm.trans same')
    exact fresh column made ((mem_fieldKeys_iff sound.complete).mp listed)
  · intro fresh column made listed
    have key : (name, column.name) ∈ fieldKey row := (mem_fieldKey_iff complete).mpr ⟨same, column, made, rfl⟩
    exact fresh _ key ((mem_fieldKeys_iff sound.complete).mpr listed)

/-- One more row is added just when the rows still make tables, and then the catalog has the tables that all rows
up to it tell of. -/
theorem addRow_told_iff (sound : MakeTables seen) :
    (c.told seen).addRow row = .ok c' ↔ MakeTables (seen ++ [row]) ∧ c' = c.told (seen ++ [row]) := by
  rw [makeTables_concat_iff sound]
  cases same : cell row "tablename" with
  | none =>
    have others : c.told (seen ++ [row]) = c.told seen := by
      simp [told, mentioned_concat_none same, rowsOf_concat_other, same]
    simp [addRow, same, fieldKey, others, eq_comm]
  | some name =>
    rw [addRow_eq_ok_iff same, tableFor_told same, withTable_told same]
    simp only [Option.isSome_some, forall_const, and_assoc]
    apply and_congr_right
    intro complete
    rw [fresh_told_iff sound same complete]

/-- From any rows that make tables, row by row. -/
theorem foldlM_addRow_iff (sound : MakeTables seen) :
    rows.foldlM addRow (c.told seen) = .ok c' ↔ MakeTables (seen ++ rows) ∧ c' = c.told (seen ++ rows) := by
  induction rows generalizing seen with
  | nil => simp [sound, pure_eq_ok_iff]
  | cons row rows ih =>
    have split : seen ++ row :: rows = (seen ++ [row]) ++ rows := by simp
    rw [List.foldlM_cons, bind_eq_ok_iff, split]
    constructor
    · rintro ⟨next, first, rest⟩
      obtain ⟨sound', rfl⟩ := (addRow_told_iff sound).mp first
      exact (ih sound').mp rest
    · rintro ⟨whole, rfl⟩
      exact ⟨_, (addRow_told_iff sound).mpr ⟨whole.of_append, rfl⟩, (ih whole.of_append).mpr ⟨whole, rfl⟩⟩

/-! Loads that are answered with rows. -/

/-- A successful load was answered with rows, and these make the catalog. -/
theorem load_eq_ok_iff {config : Config} {organization : String} {b : Backend} {c : Catalog} :
    (load config organization b).1 = .ok c ↔ organization ≠ "" ∧
      ∃ sql rows, metadataSql config organization = .ok sql ∧ (b.execute sql).1 = .ok rows ∧
        ofRows config.idColumn organization rows = .ok c := by
  by_cases empty : organization = ""
  · simp [load, empty, refuse]
  cases asked : metadataSql config organization with
  | error error => simp [load, empty, asked]
  | ok sql =>
    simp only [load, String.isEmpty_iff, empty, if_false, asked]
    cases answered : b.execute sql with
    | mk reply after => cases reply <;> simp [empty, answered]

theorem ofRows_eq_ok_iff {idColumn organization : String} {rows : List Record} {c : Catalog} :
    ofRows idColumn organization rows = .ok c ↔ ∃ first rest grouped, rows = first :: rest ∧
      rows.foldlM addRow { organization, idKey := cell first "org_key" } = .ok grouped ∧
      c = { grouped with tables := grouped.tables.map (withIdColumn idColumn) } := by
  cases rows with
  | nil => simp [ofRows, refuse]
  | cons first rest =>
    simp only [ofRows, bind_eq_ok_iff, pure_eq_ok_iff, List.cons.injEq]
    constructor
    · rintro ⟨grouped, added, rfl⟩
      exact ⟨first, rest, grouped, ⟨rfl, rfl⟩, added, rfl⟩
    · rintro ⟨_, _, grouped, ⟨rfl, rfl⟩, added, rfl⟩
      exact ⟨grouped, added, rfl⟩

/-- The columns of a table, after the identifier column where they leave it out. -/
def identified (idColumn : String) (columns : List Column) : List Column :=
  if idColumn ∈ columns.map Column.name then columns
  else { name := idColumn, type := "id", sqlType := some "text", notNull := true } :: columns

/-- The catalog that rows tell of: each table by its own rows. -/
def catalogOf (idColumn organization : String) (rows : List Record) : Catalog where
  organization := organization
  idKey := rows.head?.bind fun row => cell row "org_key"
  tables := (mentioned rows).map fun name =>
    { tableOf name (rowsOf rows name) with
      columns := identified idColumn (tableOf name (rowsOf rows name)).columns }

/-- What a load asks of the settings, of the organization and of the rows that answer it. -/
structure Loads (config : Config) (organization : String) (rows : List Record) : Prop where
  organizationsTable : isName config.organizationsTable = true
  objectsTable : isName config.objectsTable = true
  objectFieldsTable : isName config.objectFieldsTable = true
  given : organization ≠ ""
  quotable : '\x00' ∉ organization.toList
  answered : rows ≠ []
  tables : MakeTables rows

/-- Rows in another order, which keeps the first one and the order within each table. -/
structure Reordered (rows rows' : List Record) : Prop where
  perm : rows'.Perm rows
  first : rows'.head? = rows.head?
  each : ∀ name, rowsOf rows' name = rowsOf rows name

theorem withIdColumn_eq (idColumn : String) (t : CatalogTable) :
    withIdColumn idColumn t = { t with columns := identified idColumn t.columns } := by
  simp only [withIdColumn, hasColumn_iff, identified, CatalogTable.columnNames]
  split <;> rfl

theorem ofRows_eq_catalogOf_iff {idColumn organization : String} :
    ofRows idColumn organization rows = .ok c ↔
      rows ≠ [] ∧ MakeTables rows ∧ c = catalogOf idColumn organization rows := by
  have empty (fresh : Catalog) (none : fresh.tables = []) : fresh = fresh.told [] := by
    simp [told, mentioned, ← none]
  have finished (idKey : Option String) (first : idKey = rows.head?.bind fun row => cell row "org_key") :
      catalogOf idColumn organization rows =
        { ({ organization, idKey : Catalog }.told rows) with
          tables := ({ organization, idKey : Catalog }.told rows).tables.map (withIdColumn idColumn) } := by
    simp [catalogOf, told, withIdColumn_eq, first]
  rw [ofRows_eq_ok_iff]
  constructor
  · rintro ⟨first, rest, grouped, rfl, added, rfl⟩
    rw [empty { organization, idKey := cell first "org_key" } rfl] at added
    obtain ⟨sound, rfl⟩ := (foldlM_addRow_iff .nil).mp added
    exact ⟨List.cons_ne_nil _ _, sound, (finished _ rfl).symm⟩
  · rintro ⟨answered, sound, rfl⟩
    obtain ⟨first, rest, rfl⟩ := List.exists_cons_of_ne_nil answered
    refine ⟨first, rest, _, rfl, ?_, finished (cell first "org_key") rfl⟩
    rw [empty { organization, idKey := cell first "org_key" } rfl]
    exact (foldlM_addRow_iff .nil).mpr ⟨sound, rfl⟩

theorem Reordered.makeTables (reordered : Reordered rows rows') (sound : MakeTables rows) : MakeTables rows' where
  complete row member := sound.complete row (reordered.perm.mem_iff.mp member)
  distinct := (reordered.perm.filterMap fieldKey).nodup_iff.mpr sound.distinct

theorem Reordered.loads {config : Config} {organization : String} (reordered : Reordered rows rows')
    (loads : Loads config organization rows) : Loads config organization rows' where
  __ := loads
  answered none := loads.answered (List.perm_nil.mp (none ▸ reordered.perm).symm)
  tables := reordered.makeTables loads.tables

theorem Reordered.tables_perm (reordered : Reordered rows rows') (idColumn organization : String) :
    (catalogOf idColumn organization rows').tables.Perm (catalogOf idColumn organization rows).tables := by
  have names : (mentioned rows').Perm (mentioned rows) := by
    apply (List.perm_ext_iff_of_nodup (nodup_eraseDups _) (nodup_eraseDups _)).mpr
    intro name
    rw [← mentioned, ← mentioned, mem_mentioned_iff, mem_mentioned_iff, reordered.each]
  simp only [catalogOf, reordered.each]
  exact names.map _

end Catalog

/-- A database that answers the next statement with rows. -/
def Backend.answering (b : Backend) (rows : List Record) : Backend := { b with queued := .rows rows :: b.queued }

namespace Catalog

theorem load_answering_iff {config : Config} {organization : String} {b : Backend} {rows : List Record}
    {c : Catalog} : (load config organization (b.answering rows)).1 = .ok c ↔
      Loads config organization rows ∧ c = catalogOf config.idColumn organization rows := by
  have answered (sql : String) : ((b.answering rows).execute sql).1 = .ok rows := rfl
  simp only [load_eq_ok_iff, metadataSql_eq_ok_iff, answered, ofRows_eq_catalogOf_iff]
  constructor
  · rintro ⟨given, sql, _, ⟨first, second, third, quotable, rfl⟩, ⟨⟩, answered, sound, rfl⟩
    exact ⟨⟨first, second, third, given, quotable, answered, sound⟩, rfl⟩
  · rintro ⟨loads, rfl⟩
    exact ⟨loads.given, _, rows, ⟨loads.organizationsTable, loads.objectsTable, loads.objectFieldsTable,
      loads.quotable, rfl⟩, rfl, loads.answered, loads.tables, rfl⟩

/-- A load that is answered with rows gives the catalog that groups them by table, and gives none just where a
name or the organization cannot be written, no row answers, or a field is told by half or twice. So the order of
the rows of different tables, the first row aside, matters for the order of the tables only. -/
theorem load_groups_rows (config : Config) (organization : String) (b : Backend) (rows : List Record) :
    (∀ c, (load config organization (b.answering rows)).1 = .ok c ↔
      Loads config organization rows ∧ c = catalogOf config.idColumn organization rows) ∧
    ∀ rows', Reordered rows rows' → ∀ c, (load config organization (b.answering rows)).1 = .ok c →
      ∃ c', (load config organization (b.answering rows')).1 = .ok c' ∧ c'.organization = c.organization ∧
        c'.idKey = c.idKey ∧ c'.tables.Perm c.tables := by
  refine ⟨fun c => load_answering_iff, ?_⟩
  intro rows' reordered c loaded
  obtain ⟨loads, rfl⟩ := load_answering_iff.mp loaded
  refine ⟨_, load_answering_iff.mpr ⟨reordered.loads loads, rfl⟩, rfl, ?_, ?_⟩
  · rw [catalogOf, catalogOf, reordered.first]
  · exact reordered.tables_perm config.idColumn organization

example : (load { databaseUrl := "" } "o" (Backend.answering {} [⟨[("org_key", .string "k")]⟩,
      ⟨[("tablename", .string "a"), ("fldname", .string "x"), ("fldtype", .string "text")]⟩,
      ⟨[("tablename", .string "b")]⟩,
      ⟨[("tablename", .string "a"), ("fldname", .string "id"), ("fldtype", .string "id")]⟩])).1 =
    .ok ⟨"o", some "k", [⟨"a", none, [{ name := "x", type := "text" }, { name := "id", type := "id" }]⟩,
      ⟨"b", none, [{ name := "id", type := "id", sqlType := some "text", notNull := true }]⟩]⟩ := by
  rfl

end Catalog
end Tenancy
