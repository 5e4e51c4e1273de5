import Tenancy.Query.Wire
import Tenancy.Schema.Basic

/-! Selections: selects that are put together step by step. -/
namespace Tenancy

structure Selection where
  schema : Option Schema := none
  table : String
  fields : FieldList := .all
  filter : Option Condition := none
  orderBy : List String := []
  limit : Option UInt64 := none

namespace Selection

def ofTable (table : String) : Selection := { table }

def ofSchema (schema : Schema) : Selection := { schema := some schema, table := schema.table }

/-- Adds columns to the listed ones; a list without columns stands for all. -/
def select (s : Selection) (columns : List String) : Selection :=
  let listed := match s.fields with
    | .columns existing => existing ++ columns
    | _ => columns
  { s with fields := if listed.isEmpty then .all else .columns listed }

/-- Asks for a condition together with those before it. -/
def restrict (s : Selection) (condition : Condition) : Selection :=
  { s with filter := some (match s.filter with
      | some before => before.and condition
      | none => condition) }

def sort (s : Selection) (column : String) : Selection :=
  { s with orderBy := s.orderBy ++ [column] }

def sortDown (s : Selection) (column : String) : Selection :=
  { s with orderBy := s.orderBy ++ [column ++ " DESC"] }

def limitTo (s : Selection) (limit : Int64) : Checked Selection :=
  if limit ≤ 0 then refuse .invalidArgument (.limitNotPositive limit.toInt)
  else .ok { s with limit := some limit.toUInt64 }

def toQuery (s : Selection) : Query :=
  .select ⟨s.table, s.fields, s.filter, s.orderBy, s.limit⟩

/-- Counts the records instead of listing them, in no order and without a limit. -/
def toCountQuery (s : Selection) : Query :=
  .select ⟨s.table, .count, s.filter, [], none⟩

end Selection
end Tenancy
