import Tenancy.Query.Condition

/-! Queries: what callers ask of the tables of a tenant. -/
namespace Tenancy

inductive FieldList where
  | all
  | count
  | columns (names : List String)
deriving DecidableEq

structure Query.Select where
  table : String
  fields : FieldList := .all
  filter : Option Condition := none
  orderBy : List String := []
  limit : Option UInt64 := none

structure Query.Insert where
  table : String
  records : List Record

structure Query.Change where
  filter : Condition
  updates : Record

structure Query.Update where
  table : String
  records : List Query.Change

structure Query.Delete where
  table : String
  /-- One condition for each record to delete. -/
  filters : List Condition

inductive Query where
  | select (node : Query.Select)
  | insert (node : Query.Insert)
  | update (node : Query.Update)
  | delete (node : Query.Delete)

namespace Query

def table : Query → String
  | .select node => node.table
  | .insert node => node.table
  | .update node => node.table
  | .delete node => node.table

def kind : Query → String
  | .select _ => "select"
  | .insert _ => "insert"
  | .update _ => "update"
  | .delete _ => "delete"

end Query
end Tenancy
