import Tenancy.Catalog.Basic
import Tenancy.Store.Backend
import Tenancy.Store.Config

/-! Catalogs from the metadata tables. Each row tells of a field of a table, of a table without
fields, or of nothing but the organization. The catalogs that were loaded so far are kept by
organization until they are evicted. -/
namespace Tenancy

namespace Catalog

/-- The statement that asks for the metadata of an organization, up to its identifier. -/
def metadataHead (config : Config) : String :=
  "SELECT org.id_key AS org_key, obj.table_name AS tablename, obj.table_schema AS tableschema, "
    ++ "fld.name AS fldname, fld.type AS fldtype, fld.sql_type AS fldsqltype, "
    ++ "fld.not_null AS fldnotnull, fld.default_value AS flddefault, "
    ++ "fld.reference_object_id AS fldreference FROM " ++ config.organizationsTable
    ++ " org LEFT OUTER JOIN " ++ config.objectsTable ++ " obj ON org.id=obj.organization_id "
    ++ "LEFT OUTER JOIN " ++ config.objectFieldsTable ++ " fld ON obj.id=fld.object_id "
    ++ "WHERE org.id="

def metadataSql (config : Config) (organization : String) : Checked String := do
  checkName .invalidArgument config.organizationsTable
  checkName .invalidArgument config.objectsTable
  checkName .invalidArgument config.objectFieldsTable
  match Sql.Literal.ofText organization with
  | .error fault => refuse .invalidArgument (.badLiteral fault)
  | .ok literal => .ok (metadataHead config ++ literal.sql)

/-- The text of a cell; null and the empty text are no text. -/
def cell (row : Record) (name : String) : Option String :=
  match row.get? name with
  | none => none
  | some .null => none
  | some (.string s) => if s.isEmpty then none else some s
  | some json => some json.text

def flag (row : Record) (name : String) : Bool :=
  match row.get? name with
  | some (.bool b) => b
  | _ => false

def columnOf (row : Record) (name type : String) : Column where
  name := name
  type := type
  sqlType := cell row "fldsqltype"
  notNull := flag row "fldnotnull"
  defaultValue := cell row "flddefault"
  referenceObjectId := cell row "fldreference"

/-- A table with the field of a row, if the row tells of one. -/
def extendTable (table : CatalogTable) (row : Record) : Checked CatalogTable :=
  match cell row "fldname", cell row "fldtype" with
  | some name, some type => table.addColumn (columnOf row name type)
  | none, none => .ok table
  | name, type => refuse .invalidResponse (.incompleteField table.name name type)

/-- A table is as its first row tells. -/
def addRow (c : Catalog) (row : Record) : Checked Catalog :=
  match cell row "tablename" with
  | none => .ok c
  | some name => do
    let table := (c.table? name).getD { name, tableSpace := cell row "tableschema" }
    return c.withTable (← extendTable table row)

/-- Every table has the identifier column, before all others where the rows do not list it. -/
def withIdColumn (idColumn : String) (table : CatalogTable) : CatalogTable :=
  if table.hasColumn idColumn then table
  else
    let column : Column :=
      { name := idColumn, type := "id", sqlType := some "text", notNull := true }
    { table with columns := column :: table.columns }

def ofRows (idColumn organization : String) : List Record → Checked Catalog
  | [] => refuse .unknownOrganization (.noSuchOrganization organization)
  | first :: rest => do
    let empty : Catalog := { organization, idKey := cell first "org_key" }
    let c ← (first :: rest).foldlM addRow empty
    return { c with tables := c.tables.map (withIdColumn idColumn) }

/-- Loads the catalog of an organization. -/
def load (config : Config) (organization : String) (b : Backend) : Checked Catalog × Backend :=
  if organization.isEmpty then (refuse .invalidArgument .noOrganization, b)
  else
    match metadataSql config organization with
    | .error error => (.error error, b)
    | .ok sql =>
      match b.execute sql with
      | (.error error, b) => (.error error, b)
      | (.ok rows, b) => (ofRows config.idColumn organization rows, b)

end Catalog

abbrev CatalogCache := OrderedMap Catalog

namespace CatalogCache

/-- Keeps a catalog under its organization; a later one replaces it. -/
def keep (cache : CatalogCache) (c : Catalog) : CatalogCache := cache.insert c.organization c

def evict (cache : CatalogCache) (organization : String) : Option Catalog × CatalogCache :=
  (cache.get? organization, cache.erase organization)

/-- The kept catalog of an organization, or else a newly loaded one, which is kept. -/
def getOrLoad (cache : CatalogCache) (config : Config) (organization : String) (b : Backend) :
    Checked Catalog × CatalogCache × Backend :=
  match cache.get? organization with
  | some c => (.ok c, cache, b)
  | none =>
    match Catalog.load config organization b with
    | (.error error, b) => (.error error, cache, b)
    | (.ok c, b) => (.ok c, cache.keep c, b)

end CatalogCache

end Tenancy
