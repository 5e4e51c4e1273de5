import Tenancy.Catalog.Compile
import Tenancy.Catalog.Metadata
import Tenancy.Entity.Basic
import Tenancy.Query.Selection

/-! Access to the data of one organization: queries are compiled against its catalog and sent. -/
namespace Tenancy

open scoped Powers

structure Tenant where
  catalog : Catalog
  idColumn : String := idName

structure Store where
  config : Config
  catalogs : CatalogCache := ∅

/-- The tenant of an organization, whose catalog is loaded at its first use. -/
def Store.tenant (s : Store) (organization : String) (b : Backend) :
    Checked Tenant × Store × Backend :=
  match s.catalogs.getOrLoad s.config organization b with
  | (.error error, catalogs, b) => (.error error, { s with catalogs }, b)
  | (.ok catalog, catalogs, b) => (.ok ⟨catalog, s.config.idColumn⟩, { s with catalogs }, b)

namespace Tenant

/-- The texts of the statements of a query. -/
def compile (t : Tenant) (query : Query) : Checked (List String) := do
  return (← t.catalog.compile t.idColumn query).map Sql.Statement.sql

def query (t : Tenant) (query : Query) (b : Backend) : Checked (List Record) × Backend :=
  match t.compile query with
  | .error error => (.error error, b)
  | .ok statements => b.executeAll statements

/-- The entities that a selection finds. -/
def all (t : Tenant) (selection : Selection) (b : Backend) : Checked (List Entity) × Backend :=
  match selection.schema with
  | none => (refuse .invalidQuery (.noSchema selection.table), b)
  | some schema =>
    match t.query selection.toQuery b with
    | (.error error, b) => (.error error, b)
    | (.ok rows, b) => (.ok (rows.map (.ofRow schema)), b)

/-- A count comes as a number or as its text. -/
def countOf : Json → Option UInt64
  | .number (.integer i) => if 0 ≤ i ∧ i < 2 ^ (64 : Nat) then some (UInt64.ofNat i.toNat) else none
  | .string text =>
    (unsigned? text).bind fun n => if n < 2 ^ (64 : Nat) then some (UInt64.ofNat n) else none
  | _ => none

def countOfRows (rows : List Record) : Checked UInt64 :=
  match rows.head?.bind (·.get? "count") with
  | none => refuse .invalidResponse .noCountColumn
  | some value =>
    match countOf value with
    | some n => .ok n
    | none => refuse .invalidResponse (.invalidCount value)

/-- The number of records that a selection finds. -/
def count (t : Tenant) (selection : Selection) (b : Backend) : Checked UInt64 × Backend :=
  match t.query selection.toCountQuery b with
  | (.error error, b) => (.error error, b)
  | (.ok rows, b) => (countOfRows rows, b)

end Tenant
end Tenancy
