import Tenancy.Catalog.Basic
import Tenancy.Query.Basic
import Tenancy.Sql.Statement

/-! Compiling queries to statements. Only tables and columns of the catalog may be named, and a
record that is refused refuses its whole batch. -/
namespace Tenancy

open Sql

def literalOf (value : Json) : Checked Literal :=
  match Literal.ofJson value with
  | .ok literal => .ok literal
  | .error fault => refuse .invalidQuery (.badLiteral fault)

/-- The side of an operator that an operand stands on. -/
inductive Side where
  | left
  | right

namespace CatalogTable

/-- A plain value is a column on the left side and a literal on the right. -/
def clauseOf (t : CatalogTable) : Side → Operand → Checked Clause
  | .left, .value (.string column) => do
    t.checkColumn column
    return .column column
  | .left, .value json => refuse .invalidQuery (.leftNotColumn json)
  | .right, .value json => (literalOf json).map .literal
  | _, .nested left operator right =>
    if operator.isConnective then
      match left, right with
      | .nested l o r, .nested l' o' r' => do
        let first ← t.clauseOf .left (.nested l o r)
        let second ← t.clauseOf .right (.nested l' o' r')
        return .binary first operator second
      | _, _ => refuse .invalidQuery (.needsConditions operator.symbol)
    else do
      let first ← t.clauseOf .left left
      if operator.isNullTest then return .nullTest first operator
      else return .binary first operator (← t.clauseOf .right right)

def filter (t : CatalogTable) (condition : Condition) : Checked Clause :=
  t.clauseOf .left condition.toOperand

def descendingMark : List Char := " DESC".toList

/-- A column name, with at most one mark of descending order after it. -/
def sortKey (t : CatalogTable) (entry : String) : Checked SortKey := do
  let text := entry.toList
  let key : SortKey :=
    if descendingMark.isSuffixOf text then
      ⟨String.ofList (text.take (text.length - descendingMark.length)), true⟩
    else ⟨entry, false⟩
  t.checkColumn key.column
  return key

/-- The listed columns at their first places, and the identifier column after them if it is not
listed. -/
def selectedColumns (t : CatalogTable) (idColumn : String) :
    List String → List String → Checked (List String)
  | selected, [] =>
    if idColumn ∈ selected then .ok selected
    else do
      t.checkColumn idColumn
      return selected ++ [idColumn]
  | selected, column :: rest => do
    t.checkColumn column
    t.selectedColumns idColumn (if column ∈ selected then selected else selected ++ [column]) rest

def selected (t : CatalogTable) (idColumn : String) : FieldList → Checked Selected
  | .all => .ok (.columns t.columnNames)
  | .count => .ok .count
  | .columns names => (t.selectedColumns idColumn [] names).map .columns

def assignment (t : CatalogTable) (entry : String × Json) : Checked Assignment := do
  t.checkColumn entry.1
  return ⟨entry.1, ← literalOf entry.2⟩

def assignments (t : CatalogTable) (record : Record) : Checked (List Assignment) :=
  record.entries.mapM t.assignment

/-- The identifier that a condition asks for, if it asks for nothing else. -/
def filteredId (t : CatalogTable) (idColumn : String) (condition : Condition) : Checked RecordId :=
  match condition.left, condition.operator, condition.right with
  | .value (.string column), .eq, .value (.string text) =>
    if column = idColumn then
      match RecordId.ofString? text with
      | some id => do
        t.checkColumn idColumn
        return id
      | none => refuse .invalidWhereClause (.notAnId text)
    else refuse .invalidWhereClause (.notIdFilter t.name idColumn)
  | _, _, _ => refuse .invalidWhereClause (.notIdFilter t.name idColumn)

def insertStatement (t : CatalogTable) (record : Record) : Checked Statement := do
  return .insert t.name (← t.assignments record) t.columnNames

def updateStatement (t : CatalogTable) (idColumn : String) (change : Query.Change) :
    Checked Statement := do
  let id ← t.filteredId idColumn change.filter
  if change.updates.isEmpty then refuse .invalidQuery (.nothingToSet t.name)
  if change.updates.contains idColumn then refuse .invalidQuery (.fixedColumn idColumn)
  return .update t.name (← t.assignments change.updates) idColumn id t.columnNames

def deleteStatement (t : CatalogTable) (idColumn : String) (condition : Condition) :
    Checked Statement := do
  return .delete t.name idColumn (← t.filteredId idColumn condition) t.columnNames

end CatalogTable

def checkLimit : Option UInt64 → Checked (Option UInt64)
  | some limit =>
    if limit = 0 then refuse .invalidArgument (.limitNotPositive 0) else .ok (some limit)
  | none => .ok none

namespace Catalog

def selectStatement (c : Catalog) (idColumn : String) (node : Query.Select) :
    Checked Statement := do
  let table ← c.checkTable node.table
  let selected ← table.selected idColumn node.fields
  let filter ← node.filter.mapM table.filter
  let orderBy ← node.orderBy.mapM table.sortKey
  return .select selected table.name filter orderBy (← checkLimit node.limit)

/-- The statements of a query: one of a select, and one for each record of the others. -/
def compile (c : Catalog) (idColumn : String) : Query → Checked (List Statement)
  | .select node => do return [← c.selectStatement idColumn node]
  | .insert node => do
    let table ← c.checkTable node.table
    node.records.mapM table.insertStatement
  | .update node => do
    let table ← c.checkTable node.table
    node.records.mapM (table.updateStatement idColumn)
  | .delete node => do
    let table ← c.checkTable node.table
    node.filters.mapM (table.deleteStatement idColumn)

end Catalog
end Tenancy
