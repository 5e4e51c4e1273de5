import Tenancy.Query.Operator
import Tenancy.Sql.Literal
import Tenancy.Text.Basic

/-! Statements on one table, and their text. In a condition comparisons are written without blanks, connectives
with parentheses around both of their sides, and the other operators with blanks. -/
namespace Tenancy.Sql

inductive Clause where
  | column (name : String)
  | literal (value : Literal)
  | nullTest (left : Clause) (operator : Operator)
  | binary (left : Clause) (operator : Operator) (right : Clause)

def Clause.sql : Clause → String
  | .column name => name
  | .literal value => value.sql
  | .nullTest left operator => left.sql ++ " " ++ operator.symbol
  | .binary left operator right =>
    if operator.isConnective then
      "(" ++ left.sql ++ " " ++ operator.symbol ++ " " ++ right.sql ++ ")"
    else if operator.isComparison then left.sql ++ operator.symbol ++ right.sql
    else left.sql ++ " " ++ operator.symbol ++ " " ++ right.sql

inductive Selected where
  | count
  | columns (names : List String)

structure SortKey where
  column : String
  descending : Bool
deriving DecidableEq

structure Assignment where
  column : String
  value : Literal

inductive Statement where
  | select (selected : Selected) (table : String) (filter : Option Clause) (orderBy : List SortKey)
      (limit : Option UInt64)
  | insert (table : String) (assignments : List Assignment) (returning : List String)
  | update (table : String) (assignments : List Assignment) (idColumn : String) (id : RecordId)
      (returning : List String)
  | delete (table : String) (idColumn : String) (id : RecordId) (returning : List String)

def Selected.sql : Selected → String
  | .count => "COUNT(*) AS count"
  | .columns names => Text.commaSeparated names

def SortKey.sql (key : SortKey) : String :=
  if key.descending then key.column ++ " DESC" else key.column

def orderSql (keys : List SortKey) : String := Text.commaSeparated (keys.map SortKey.sql)

def filterSql : Option Clause → String
  | some clause => " WHERE " ++ clause.sql
  | none => ""

def orderBySql (keys : List SortKey) : String :=
  if keys.isEmpty then "" else " ORDER BY " ++ orderSql keys

def limitSql : Option UInt64 → String
  | some limit => " LIMIT " ++ decimalText limit.toNat
  | none => ""

def Assignment.sql (a : Assignment) : String := a.column ++ "=" ++ a.value.sql

def idFilterSql (idColumn : String) (id : RecordId) : String :=
  idColumn ++ "=" ++ quotedText id.text

def returningSql (columns : List String) : String := " RETURNING " ++ Text.commaSeparated columns

namespace Statement

def sql : Statement → String
  | .select selected table filter orderBy limit =>
    "SELECT " ++ selected.sql ++ " FROM " ++ table ++ filterSql filter ++ orderBySql orderBy
      ++ limitSql limit
  | .insert table assignments returning =>
    if assignments.isEmpty then
      "INSERT INTO " ++ table ++ " DEFAULT VALUES" ++ returningSql returning
    else
      "INSERT INTO " ++ table ++ " (" ++ Text.commaSeparated (assignments.map Assignment.column)
        ++ ") VALUES (" ++ Text.commaSeparated (assignments.map fun a => a.value.sql) ++ ")"
        ++ returningSql returning
  | .update table assignments idColumn id returning =>
    "UPDATE " ++ table ++ " SET " ++ Text.commaSeparated (assignments.map Assignment.sql)
      ++ " WHERE (" ++ idFilterSql idColumn id ++ ")" ++ returningSql returning
  | .delete table idColumn id returning =>
    "DELETE FROM " ++ table ++ " WHERE (" ++ idFilterSql idColumn id ++ ")"
      ++ returningSql returning

theorem sql_insert (table : String) (assignments : List Assignment) (returning : List String) :
    (insert table assignments returning).sql =
      if assignments.isEmpty then
        "INSERT INTO " ++ table ++ " DEFAULT VALUES" ++ returningSql returning
      else
        "INSERT INTO " ++ table ++ " (" ++ Text.commaSeparated (assignments.map Assignment.column)
          ++ ") VALUES (" ++ Text.commaSeparated (assignments.map fun a => a.value.sql) ++ ")"
          ++ returningSql returning := rfl

theorem sql_update (table : String) (assignments : List Assignment) (idColumn : String) (id : RecordId)
    (returning : List String) :
    (update table assignments idColumn id returning).sql =
      "UPDATE " ++ table ++ " SET " ++ Text.commaSeparated (assignments.map Assignment.sql)
        ++ " WHERE (" ++ idFilterSql idColumn id ++ ")" ++ returningSql returning := rfl

theorem sql_delete (table idColumn : String) (id : RecordId) (returning : List String) :
    (delete table idColumn id returning).sql =
      "DELETE FROM " ++ table ++ " WHERE (" ++ idFilterSql idColumn id ++ ")"
        ++ returningSql returning := rfl

end Statement
end Tenancy.Sql
