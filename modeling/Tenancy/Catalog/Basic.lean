import Tenancy.Error

/-! Catalogs: the tables and columns that an organization may use. -/
namespace Tenancy

structure Column where
  name : String
  type : String
  sqlType : Option String := none
  notNull : Bool := false
  defaultValue : Option String := none
  referenceObjectId : Option String := none
deriving DecidableEq

structure CatalogTable where
  name : String
  tableSpace : Option String := none
  columns : List Column := []

structure Catalog where
  organization : String
  idKey : Option String := none
  tables : List CatalogTable := []

/-- Puts an item in place of the first one of its name, or else at the end. -/
def putNamed {α : Type} (name : α → String) (item : α) : List α → List α
  | [] => [item]
  | first :: rest =>
    if name first = name item then item :: rest else first :: putNamed name item rest

namespace CatalogTable

def columnNames (t : CatalogTable) : List String := t.columns.map Column.name

def column? (t : CatalogTable) (name : String) : Option Column :=
  t.columns.find? fun column => column.name = name

def hasColumn (t : CatalogTable) (name : String) : Bool := (t.column? name).isSome

/-- Puts a column into the table, in place of one of the same name. -/
def withColumn (t : CatalogTable) (column : Column) : CatalogTable :=
  { t with columns := putNamed Column.name column t.columns }

/-- Adds a column, which the table may not have yet. -/
def addColumn (t : CatalogTable) (column : Column) : Checked CatalogTable :=
  if t.hasColumn column.name then refuse .invalidResponse (.columnRepeated t.name column.name)
  else .ok { t with columns := t.columns ++ [column] }

/-- A column of the table with a name that may stand in a statement. -/
def checkColumn (t : CatalogTable) (name : String) : Checked Unit := do
  checkName .unknownField name
  if t.hasColumn name then return ()
  else refuse .unknownField (.noColumn name t.name)

end CatalogTable

namespace Catalog

def table? (c : Catalog) (name : String) : Option CatalogTable :=
  c.tables.find? fun table => table.name = name

/-- Puts a table into the catalog, in place of one of the same name. -/
def withTable (c : Catalog) (table : CatalogTable) : Catalog :=
  { c with tables := putNamed CatalogTable.name table c.tables }

def hasTable (c : Catalog) (name : String) : Bool := (c.table? name).isSome

def hasColumn (c : Catalog) (table column : String) : Bool :=
  match c.table? table with
  | some t => t.hasColumn column
  | none => false

def columnNames? (c : Catalog) (table : String) : Option (List String) :=
  (c.table? table).map CatalogTable.columnNames

/-- A table of the catalog with a name that may stand in a statement. -/
def checkTable (c : Catalog) (name : String) : Checked CatalogTable := do
  checkName .unknownTable name
  match c.table? name with
  | some table => return table
  | none => refuse .unknownTable (.noTable name c.organization)

end Catalog
end Tenancy
