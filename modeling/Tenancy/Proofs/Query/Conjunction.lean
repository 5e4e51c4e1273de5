import Tenancy.Proofs.Catalog.Whitelist
import Tenancy.Proofs.Query.Grouping

/-! Conditions that are asked for together. They become one condition, which is grouped from the left and is
written as the texts of them grouped in the same way, in the statement that lists records and in the one that
counts them. -/
namespace Tenancy

open Sql

namespace Sql

def andSql (left right : String) : String := "(" ++ left ++ " AND " ++ right ++ ")"

/-- The where part of a statement, from the texts of the conditions in it. -/
def whereSql : List String → String
  | [] => ""
  | first :: rest => " WHERE " ++ rest.foldl andSql first

/-- The order of a statement, from the entries that ask for it. -/
def sortedSql (entries : List String) : String :=
  if entries.isEmpty then "" else " ORDER BY " ++ Text.commaSeparated entries

theorem orderBySql_keyOf (entries : List String) :
    orderBySql (entries.map CatalogTable.keyOf) = sortedSql entries := by
  have texts : (entries.map CatalogTable.keyOf).map SortKey.sql = entries := by
    simp [Function.comp_def, CatalogTable.keyOf_sql]
  rw [orderBySql, orderSql, texts, List.isEmpty_map]
  rfl

end Sql

namespace Condition

/-- One condition for all, grouped from the left: `((a AND b) AND c)`. -/
def conjunction? : List Condition → Option Condition
  | [] => none
  | first :: rest => some (rest.foldl .and first)

def sql (c : Condition) : String := (c.toOperand.clause .left).sql

theorem sql_and (a b : Condition) : (a.and b).sql = andSql a.sql b.sql := by
  have right : b.toOperand.clause .right = b.toOperand.clause .left := by
    rw [toOperand, Operand.clause_nested, Operand.clause_nested]
  have both : (a.and b).toOperand.clause .left =
      .binary (a.toOperand.clause .left) .and (b.toOperand.clause .right) := rfl
  rw [sql, both, right]
  simp only [Clause.sql, andSql, sql, Operator.isConnective, if_true, Operator.symbol, String.append_assoc]
  rfl

theorem sql_foldl_and (first : Condition) (rest : List Condition) :
    (rest.foldl and first).sql = (rest.map sql).foldl andSql first.sql := by
  rw [List.foldl_map]
  exact (List.foldl_hom sql fun a b => (sql_and a b).symm).symm

theorem filterSql_conjunction? (conditions : List Condition) :
    filterSql ((conjunction? conditions).map fun c => c.toOperand.clause .left) =
      whereSql (conditions.map sql) := by
  cases conditions with
  | nil => rfl
  | cons first rest => exact congrArg (" WHERE " ++ ·) (sql_foldl_and first rest)

variable {t : CatalogTable}

theorem accepted_and_iff {a b : Condition} :
    (a.and b).toOperand.Accepted t ↔ a.toOperand.Accepted t ∧ b.toOperand.Accepted t :=
  Operand.accepted_connective_iff rfl

theorem accepted_foldl_and_iff {first : Condition} {rest : List Condition} :
    (rest.foldl and first).toOperand.Accepted t ↔
      first.toOperand.Accepted t ∧ ∀ c ∈ rest, c.toOperand.Accepted t := by
  induction rest generalizing first with
  | nil => simp
  | cons second rest ih => rw [List.foldl_cons, ih, accepted_and_iff, List.forall_mem_cons, and_assoc]

theorem accepted_conjunction?_iff {conditions : List Condition} :
    (∀ c ∈ conjunction? conditions, c.toOperand.Accepted t) ↔ ∀ c ∈ conditions, c.toOperand.Accepted t := by
  cases conditions with
  | nil => simp [conjunction?]
  | cons first rest => simp [conjunction?, accepted_foldl_and_iff]

end Condition

namespace CatalogTable

/-- The text that a condition is written as. -/
def filterText (t : CatalogTable) (condition : Condition) : Checked String :=
  (t.filter condition).map Clause.sql

variable {t : CatalogTable} {conditions : List Condition}

theorem filterText_eq_ok_iff {condition : Condition} {text : String} :
    t.filterText condition = .ok text ↔ condition.toOperand.Accepted t ∧ text = condition.sql := by
  rw [filterText, map_eq_ok_iff]
  simp only [filter_eq_ok_iff]
  constructor
  · rintro ⟨_, ⟨accepted, rfl⟩, rfl⟩
    exact ⟨accepted, rfl⟩
  · rintro ⟨accepted, rfl⟩
    exact ⟨_, ⟨accepted, rfl⟩, rfl⟩

theorem filterTexts_eq_ok_iff {texts : List String} :
    conditions.mapM t.filterText = .ok texts ↔
      (∀ c ∈ conditions, c.toOperand.Accepted t) ∧ texts = conditions.map Condition.sql :=
  mapM_eq_ok_iff_map fun _ _ => filterText_eq_ok_iff

/-- Conditions that can be written one by one can be written together. -/
theorem filter_conjunction?_of_texts {texts : List String} (written : conditions.mapM t.filterText = .ok texts) :
    ∃ clause, (Condition.conjunction? conditions).mapM t.filter = .ok clause ∧
      filterSql clause = whereSql texts := by
  obtain ⟨accepted, rfl⟩ := filterTexts_eq_ok_iff.mp written
  refine ⟨_, ?_, Condition.filterSql_conjunction? conditions⟩
  rw [option_mapM_eq_ok_iff_map (fun _ _ => filter_eq_ok_iff)]
  exact ⟨Condition.accepted_conjunction?_iff.mpr accepted, rfl⟩

theorem selectOf_sql (t : CatalogTable) (idColumn : String) (node : Query.Select)
    (conjoined : node.filter = Condition.conjunction? conditions) :
    (t.selectOf idColumn node).sql =
      "SELECT " ++ (t.selection idColumn node.fields).sql ++ " FROM " ++ t.name
        ++ whereSql (conditions.map Condition.sql) ++ sortedSql node.orderBy ++ limitSql node.limit := by
  rw [← Condition.filterSql_conjunction?, ← conjoined, ← orderBySql_keyOf]
  rfl

end CatalogTable

/-- The select that counts what another one lists. -/
def Query.Select.counting (node : Query.Select) : Query.Select := ⟨node.table, .count, node.filter, [], none⟩

theorem CatalogTable.AcceptsSelect.counting {t : CatalogTable} {idColumn : String} {node : Query.Select}
    (accepted : t.AcceptsSelect idColumn node) : t.AcceptsSelect idColumn node.counting where
  fields := trivial
  filter := accepted.filter
  orderBy := nofun
  limit := nofun

/-- A select that compiles has a count that compiles, with the same where part and nothing after it. -/
theorem Catalog.compile_conjunction? {c : Catalog} {idColumn : String} {node : Query.Select}
    {conditions : List Condition} {statements : List Statement}
    (conjoined : node.filter = Condition.conjunction? conditions)
    (compiled : c.compile idColumn (.select node) = .ok statements) :
    ∃ t texts, c.Lists node.table t ∧ conditions.mapM t.filterText = .ok texts ∧
      statements.map Statement.sql =
        ["SELECT " ++ (t.selection idColumn node.fields).sql ++ " FROM " ++ node.table ++ whereSql texts
          ++ sortedSql node.orderBy ++ limitSql node.limit] ∧
      (c.compile idColumn (.select node.counting)).map (List.map Statement.sql) =
        .ok ["SELECT COUNT(*) AS count FROM " ++ node.table ++ whereSql texts] := by
  obtain ⟨t, listed, accepted, rfl⟩ := compile_select_eq_ok_iff.mp compiled
  have named := table?_name listed.found
  have counted : c.compile idColumn (.select node.counting) = .ok [t.selectOf idColumn node.counting] :=
    compile_select_eq_ok_iff.mpr ⟨t, listed, accepted.counting, rfl⟩
  refine ⟨t, conditions.map Condition.sql, listed, ?_, ?_, ?_⟩
  · apply CatalogTable.filterTexts_eq_ok_iff.mpr
    exact ⟨Condition.accepted_conjunction?_iff.mp (conjoined ▸ accepted.filter), rfl⟩
  · rw [List.map_singleton, t.selectOf_sql idColumn node conjoined, named]
  · rw [counted, Except.map, List.map_singleton, t.selectOf_sql idColumn node.counting conjoined, named]
    simp [Query.Select.counting, CatalogTable.selection, Selected.sql, sortedSql, limitSql]

end Tenancy
