import Tenancy.Proofs.Catalog.Whitelist
import Tenancy.Proofs.Sql.Containment

/-! The names of the tables and columns that a compiled query writes. Every name that the query
mentions is checked; where all columns of a table are listed, their names come from the catalog. -/
namespace Tenancy

open Sql

theorem Operand.admits_of_mem_names {t : CatalogTable} {o : Operand} {side : Side} (fits : o.Fits t side)
    {name : String} (member : name ∈ (o.clause side).names) : t.Admits name := by
  induction o generalizing side with
  | value json =>
    cases side with
    | right => cases member
    | left =>
      cases json with
      | string column =>
        obtain rfl : name = column := List.mem_singleton.mp member
        exact fits.resolve_right id
      | _ => cases member
  | nested left operator right ihl ihr =>
    obtain ⟨fitsLeft, fitsRight⟩ := ((fits_nested_iff t).mp fits).sides
    rw [clause_nested] at member
    split at member
    · exact ihl fitsLeft member
    · rename_i binary
      rcases List.mem_append.mp member with inLeft | inRight
      · exact ihl fitsLeft inLeft
      · exact ihr (fitsRight.resolve_left binary) inRight

/-- Whether the statements of a query list all columns of its table. -/
def Query.ListsAll : Query → Prop
  | .select node => node.fields = .all
  | .insert node => node.records ≠ []
  | .update node => node.records ≠ []
  | .delete node => node.filters ≠ []

namespace CatalogTable

variable {t : CatalogTable} {idColumn : String}

theorem isName_of_mem_selection {fields : FieldList} (admitted : t.AdmitsFields idColumn fields)
    (some_ : fields ≠ .all) {name : String} (member : name ∈ (t.selection idColumn fields).names) :
    isName name = true := by
  cases fields with
  | all => exact absurd rfl some_
  | count => cases member
  | columns names =>
    have listed : name ∈ names ∨ name = idColumn ∧ idColumn ∉ names := by
      simp only [selection, Selected.names, withIdentifier] at member
      split at member
      · exact .inl (by simpa [mem_listedColumns_iff] using member)
      · rename_i unlisted
        simp only [List.mem_append, mem_listedColumns_iff, List.mem_singleton, List.not_mem_nil,
          false_or] at member unlisted
        exact member.imp_right fun same => ⟨same, unlisted⟩
    rcases listed with listed | ⟨rfl, unlisted⟩
    · exact (admitted.1 name listed).isName
    · exact (admitted.2 unlisted).isName

/-- All columns of the table are listed, or else every name of the select was checked. -/
theorem names_selectOf_iff {node : Query.Select} (tableNamed : isName t.name = true)
    (accepted : t.AcceptsSelect idColumn node) :
    (∀ name ∈ (t.selectOf idColumn node).names, isName name = true) ↔
      (node.fields = .all → ∀ name ∈ t.columnNames, isName name = true) := by
  have filterNamed : ∀ name ∈ (node.filter.map fun condition => condition.toOperand.clause .left).elim []
      Clause.names, isName name = true := by
    intro name member
    cases filter : node.filter with
    | none => simp [filter] at member
    | some condition =>
      simp only [filter, Option.map_some, Option.elim_some] at member
      have fits : condition.toOperand.Fits t .left := .inr (accepted.filter _ filter)
      exact (Operand.admits_of_mem_names fits member).isName
  have orderNamed : ∀ key ∈ node.orderBy.map keyOf, isName key.column = true := by
    rw [List.forall_mem_map]
    exact fun entry listed => (admitsSort_iff.mp (accepted.orderBy entry listed)).isName
  simp only [selectOf, Statement.names, List.forall_mem_append, List.forall_mem_cons]
  rw [and_iff_left ⟨tableNamed, filterNamed, List.forall_mem_map.mpr orderNamed⟩]
  constructor
  · intro named all
    rw [all] at named
    exact named
  · intro columnsNamed name member
    by_cases all : node.fields = .all
    · rw [all] at member
      exact columnsNamed all name member
    · exact isName_of_mem_selection accepted.fields all member

theorem isName_of_mem_assigned {record : Record} (admitted : t.AdmitsRecord record) :
    ∀ name ∈ (record.entries.map assigned).map Assignment.column, isName name = true := by
  simp only [List.forall_mem_map]
  exact fun entry listed => (admitted entry listed).1.isName

theorem names_insertOf_iff {record : Record} (tableNamed : isName t.name = true)
    (admitted : t.AdmitsRecord record) :
    (∀ name ∈ (t.insertOf record).names, isName name = true) ↔
      ∀ name ∈ t.columnNames, isName name = true := by
  simp only [insertOf, Statement.names, List.forall_mem_append, List.forall_mem_cons]
  rw [and_iff_right tableNamed, and_iff_right (isName_of_mem_assigned admitted)]

theorem names_update_iff {change : Query.Change} {s : Statement} (tableNamed : isName t.name = true)
    (accepted : t.AcceptsChange idColumn change) (update : t.IsUpdateOf idColumn change s) :
    (∀ name ∈ s.names, isName name = true) ↔ ∀ name ∈ t.columnNames, isName name = true := by
  obtain ⟨id, _, rfl⟩ := update
  simp only [Statement.names, List.forall_mem_append, List.forall_mem_cons]
  rw [and_iff_right tableNamed, and_iff_right (isName_of_mem_assigned accepted.record),
    and_iff_right accepted.filter.admitted.isName]

theorem names_delete_iff {condition : Condition} {s : Statement} (tableNamed : isName t.name = true)
    (accepted : t.AcceptsIdFilter idColumn condition) (delete : t.IsDeleteOf idColumn condition s) :
    (∀ name ∈ s.names, isName name = true) ↔ ∀ name ∈ t.columnNames, isName name = true := by
  obtain ⟨id, _, rfl⟩ := delete
  simp only [Statement.names, List.forall_mem_cons]
  rw [and_iff_right tableNamed, and_iff_right accepted.admitted.isName]

end CatalogTable

/-- Every name of a compiled query is plain, unless its statements list a column of the catalog that
is not. -/
theorem Catalog.names_isName_iff {c : Catalog} {idColumn : String} {q : Query} {t : CatalogTable}
    {statements : List Statement} (compiled : c.compile idColumn q = .ok statements)
    (listed : c.Lists q.table t) :
    (∀ s ∈ statements, ∀ name ∈ s.names, isName name = true) ↔
      (q.ListsAll → ∀ name ∈ t.columnNames, isName name = true) := by
  have tableNamed : isName t.name = true := by
    rw [table?_name listed.found]
    exact listed.isName
  cases q with
  | select node =>
    obtain ⟨t', listed', accepted, rfl⟩ := compile_select_eq_ok_iff.mp compiled
    obtain rfl := listed.unique listed'
    rw [List.forall_mem_singleton]
    exact CatalogTable.names_selectOf_iff tableNamed accepted
  | insert node =>
    obtain ⟨t', listed', admitted, rfl⟩ := compile_insert_eq_ok_iff.mp compiled
    obtain rfl := listed.unique listed'
    apply forall_results_iff (related_map admitted)
    rintro record s ⟨admitted, rfl⟩
    exact CatalogTable.names_insertOf_iff tableNamed admitted
  | update node =>
    obtain ⟨t', listed', related⟩ := compile_update_eq_ok_iff.mp compiled
    obtain rfl := listed.unique listed'
    apply forall_results_iff related
    exact fun change s each => CatalogTable.names_update_iff tableNamed each.1 each.2
  | delete node =>
    obtain ⟨t', listed', related⟩ := compile_delete_eq_ok_iff.mp compiled
    obtain rfl := listed.unique listed'
    apply forall_results_iff related
    exact fun condition s each => CatalogTable.names_delete_iff tableNamed each.1 each.2

end Tenancy
