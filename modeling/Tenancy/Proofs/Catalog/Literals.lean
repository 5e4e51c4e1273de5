import Tenancy.Proofs.Query.Texts

/-! The texts of compiled statements are those of their query, and a query with other texts compiles to
statements that differ in nothing else. -/
namespace Tenancy

open Sql

/-- Catalogs with plain names only. -/
structure Catalog.Named (c : Catalog) : Prop where
  tables : ∀ t ∈ c.tables, isName t.name = true
  columns : ∀ t ∈ c.tables, ∀ name ∈ t.columnNames, isName name = true

theorem Condition.eq_idCondition_of_emptied {c : Condition} {idColumn text : String}
    (same : c.emptied = (CatalogTable.idCondition idColumn text).emptied) :
    ∃ text', c = CatalogTable.idCondition idColumn text' := by
  rcases c with ⟨left, operator, right⟩
  simp only [Condition.emptied, CatalogTable.idCondition, Operand.emptied, Operator.isNullTest,
    Bool.false_eq_true, if_false, Json.emptied, Condition.mk.injEq] at same
  obtain ⟨sameLeft, rfl, sameRight⟩ := same
  cases left with
  | nested => simp [Operand.emptied] at sameLeft
  | value json =>
    cases right with
    | nested => simp [Operand.emptied] at sameRight
    | value value =>
      cases value <;> simp_all [Operand.emptied, Json.emptied, CatalogTable.idCondition]

namespace CatalogTable

variable {t : CatalogTable} {idColumn : String}

theorem acceptsSelect_emptied_iff {node : Query.Select} :
    t.AcceptsSelect idColumn node ↔
      t.AcceptsSelect idColumn { node with filter := node.filter.map Condition.emptied } ∧
      ∀ text ∈ node.filter.elim [] Condition.texts, '\x00' ∉ text.toList := by
  constructor
  · rintro ⟨fields, filter, orderBy, limit⟩
    refine ⟨⟨fields, ?_, orderBy, limit⟩, ?_⟩
    · intro condition member
      obtain ⟨original, listed, rfl⟩ := Option.map_eq_some_iff.mp member
      exact (original.accepted_iff.mp (filter original listed)).1
    · cases listed : node.filter with
      | none => simp
      | some condition => exact (condition.accepted_iff.mp (filter condition listed)).2
  · rintro ⟨⟨fields, filter, orderBy, limit⟩, nulFree⟩
    refine ⟨fields, ?_, orderBy, limit⟩
    intro condition listed
    rw [Option.mem_def] at listed
    simp only [listed, Option.map_some, Option.mem_some_iff, forall_eq', Option.elim_some] at filter nulFree
    exact condition.accepted_iff.mpr ⟨filter, nulFree⟩

theorem emptiedSql_selectOf (node : Query.Select) :
    (t.selectOf idColumn node).emptiedSql =
      (t.selectOf idColumn { node with filter := node.filter.map Condition.emptied }).sql := by
  simp only [selectOf, Statement.emptiedSql_select, Option.map_map, Function.comp_def,
    Condition.toOperand_emptied, Operand.emptied_clause]

theorem emptiedSql_insertOf (record : Record) :
    (t.insertOf record).emptiedSql = (t.insertOf (Record.emptied record)).sql := by
  rw [insertOf, Statement.emptiedSql_insert, insertOf, Record.assigned_emptied]

/-- The text of a change outside its literals is settled by the change without its texts. -/
theorem IsUpdateOf.emptiedSql_eq {change change' : Query.Change} {s s' : Statement}
    (update : t.IsUpdateOf idColumn change s) (update' : t.IsUpdateOf idColumn change' s')
    (same : change'.emptied = change.emptied) : s'.emptiedSql = s.emptiedSql := by
  obtain ⟨id, _, rfl⟩ := update
  obtain ⟨id', _, rfl⟩ := update'
  have assignedSame : (change'.updates.entries.map assigned).map Assignment.emptied =
      (change.updates.entries.map assigned).map Assignment.emptied := by
    rw [← Record.assigned_emptied, ← Record.assigned_emptied]
    exact congrArg (fun record : Record => record.entries.map assigned) (congrArg Query.Change.updates same)
  have texts : (change'.updates.entries.map assigned).map (fun a => a.emptied.sql) =
      (change.updates.entries.map assigned).map fun a => a.emptied.sql := by
    simpa only [List.map_map, Function.comp_def] using congrArg (List.map Assignment.sql) assignedSame
  rw [Statement.emptiedSql_update, Statement.emptiedSql_update, texts]

theorem IsUpdateOf.texts_eq {change : Query.Change} {s : Statement} (update : t.IsUpdateOf idColumn change s) :
    change.texts = s.texts := by
  obtain ⟨id, same, rfl⟩ := update
  rw [Query.Change.texts, same, Condition.texts_idCondition, Statement.texts, Record.texts_assigned]

theorem IsDeleteOf.texts_eq {condition : Condition} {s : Statement}
    (delete : t.IsDeleteOf idColumn condition s) : condition.texts = s.texts := by
  obtain ⟨id, rfl, rfl⟩ := delete
  rfl

/-- All deletes from a table are the same but for the record that they name. -/
theorem IsDeleteOf.emptiedSql_eq {condition condition' : Condition} {s s' : Statement}
    (delete : t.IsDeleteOf idColumn condition s) (delete' : t.IsDeleteOf idColumn condition' s') :
    s'.emptiedSql = s.emptiedSql := by
  obtain ⟨id, _, rfl⟩ := delete
  obtain ⟨id', _, rfl⟩ := delete'
  rfl

theorem acceptsIdFilter_of_emptied {condition condition' : Condition}
    (accepted : t.AcceptsIdFilter idColumn condition) (same : condition'.emptied = condition.emptied)
    (identified : ∀ text ∈ condition'.texts, RecordId.isWellFormed text = true) :
    t.AcceptsIdFilter idColumn condition' := by
  obtain ⟨⟨id, rfl⟩, admitted⟩ := acceptsIdFilter_iff.mp accepted
  obtain ⟨text, rfl⟩ := Condition.eq_idCondition_of_emptied same
  have wellFormed := identified text List.mem_cons_self
  exact acceptsIdFilter_iff.mpr ⟨⟨⟨text, wellFormed⟩, rfl⟩, admitted⟩

theorem acceptsChange_of_emptied {change change' : Query.Change} (accepted : t.AcceptsChange idColumn change)
    (same : change'.emptied = change.emptied)
    (nulFree : ∀ text ∈ change'.texts, '\x00' ∉ text.toList)
    (identified : ∀ text ∈ change'.filter.texts, RecordId.isWellFormed text = true) :
    t.AcceptsChange idColumn change' := by
  have filterSame : change'.filter.emptied = change.filter.emptied := congrArg Query.Change.filter same
  have updatesSame : Record.emptied change'.updates = Record.emptied change.updates :=
    congrArg Query.Change.updates same
  have keysSame : change'.updates.keys = change.updates.keys := by
    rw [← Record.keys_emptied, updatesSame, Record.keys_emptied]
  refine ⟨acceptsIdFilter_of_emptied accepted.filter filterSame identified, ?_, ?_, ?_⟩
  · intro empty
    have noKeys : change.updates.keys = [] := by rw [← keysSame, OrderedMap.keys, empty, List.map_nil]
    exact accepted.nonempty (List.map_eq_nil_iff.mp noKeys)
  · rw [keysSame]
    exact accepted.fixed
  · apply (Record.admits_iff _).mpr
    rw [updatesSame]
    refine ⟨((Record.admits_iff _).mp accepted.record).1, fun text member => nulFree text ?_⟩
    exact List.mem_append_left _ member

end CatalogTable

namespace Catalog

variable {c : Catalog} {idColumn : String} {q q' : Query} {statements : List Statement}

theorem texts_of_compile (compiled : c.compile idColumn q = .ok statements) :
    statements.map Statement.texts = q.texts := by
  cases q with
  | select node =>
    obtain ⟨t, _, _, rfl⟩ := compile_select_eq_ok_iff.mp compiled
    cases filter : node.filter with
    | none => simp [CatalogTable.selectOf, Statement.texts, Query.texts, filter]
    | some condition =>
      simpa [CatalogTable.selectOf, Statement.texts, Query.texts, filter, Condition.texts] using
        condition.toOperand.texts_clause .left
  | insert node =>
    obtain ⟨t, _, _, rfl⟩ := compile_insert_eq_ok_iff.mp compiled
    rw [List.map_map]
    exact List.map_congr_left fun record _ => Record.texts_assigned record
  | update node =>
    obtain ⟨t, _, each⟩ := compile_update_eq_ok_iff.mp compiled
    exact (map_eq_of_related each fun _ _ update => update.2.texts_eq).symm
  | delete node =>
    obtain ⟨t, _, each⟩ := compile_delete_eq_ok_iff.mp compiled
    exact (map_eq_of_related each fun _ _ delete => delete.2.texts_eq).symm

/-- The query compiles to statements that are the same but for their texts. -/
def CompilesAlike (c : Catalog) (idColumn : String) (statements : List Statement) (q : Query) : Prop :=
  ∃ statements', c.compile idColumn q = .ok statements' ∧
    statements'.map Statement.emptiedSql = statements.map Statement.emptiedSql

theorem select_compilesAlike {node node' : Query.Select} (compiled : c.compile idColumn (.select node) = .ok statements)
    (reworded : (Query.select node).Reworded (.select node')) :
    c.CompilesAlike idColumn statements (.select node') := by
  obtain ⟨t, listed, accepted, rfl⟩ := compile_select_eq_ok_iff.mp compiled
  have same := Query.select.inj reworded.same
  have listed' : c.Lists node'.table t := by
    rwa [congrArg Query.Select.table same]
  have accepted' : t.AcceptsSelect idColumn node' := by
    rw [CatalogTable.acceptsSelect_emptied_iff, same]
    exact ⟨(CatalogTable.acceptsSelect_emptied_iff.mp accepted).1, List.forall_mem_singleton.mp reworded.nulFree⟩
  refine ⟨_, compile_select_eq_ok_iff.mpr ⟨t, listed', accepted', rfl⟩, ?_⟩
  rw [List.map_singleton, List.map_singleton, CatalogTable.emptiedSql_selectOf, same,
    ← CatalogTable.emptiedSql_selectOf]

theorem insert_compilesAlike {node node' : Query.Insert} (compiled : c.compile idColumn (.insert node) = .ok statements)
    (reworded : (Query.insert node).Reworded (.insert node')) :
    c.CompilesAlike idColumn statements (.insert node') := by
  obtain ⟨t, listed, admitted, rfl⟩ := compile_insert_eq_ok_iff.mp compiled
  obtain ⟨tableSame, recordsSame⟩ := Query.Insert.mk.inj (Query.insert.inj reworded.same)
  have admitted' : ∀ record ∈ node'.records, t.AdmitsRecord record := by
    intro record member
    obtain ⟨original, listedOriginal, alike⟩ := exists_of_map_eq recordsSame member
    rw [Record.admits_iff, alike]
    exact ⟨((Record.admits_iff original).mp (admitted original listedOriginal)).1,
      reworded.nulFree _ (List.mem_map_of_mem member)⟩
  refine ⟨_, compile_insert_eq_ok_iff.mpr ⟨t, tableSame ▸ listed, admitted', rfl⟩, ?_⟩
  have outside (records : List Record) : (records.map t.insertOf).map Statement.emptiedSql =
      (records.map Record.emptied).map fun record => (t.insertOf record).sql := by
    simp only [List.map_map]
    exact List.map_congr_left fun record _ => CatalogTable.emptiedSql_insertOf record
  rw [outside, outside, recordsSame]

theorem update_compilesAlike {node node' : Query.Update} (compiled : c.compile idColumn (.update node) = .ok statements)
    (reworded : (Query.update node).Reworded (.update node')) :
    c.CompilesAlike idColumn statements (.update node') := by
  obtain ⟨t, listed, each⟩ := compile_update_eq_ok_iff.mp compiled
  obtain ⟨tableSame, recordsSame⟩ := Query.Update.mk.inj (Query.update.inj reworded.same)
  obtain ⟨accepted, _⟩ := (List.forall₂_and_left _ _).mp each
  have accepted' : ∀ change ∈ node'.records, t.AcceptsChange idColumn change := by
    intro change member
    obtain ⟨original, listedOriginal, alike⟩ := exists_of_map_eq recordsSame member
    have identified : ∀ text ∈ change.filter.texts, RecordId.isWellFormed text = true :=
      fun text inFilter => reworded.identified text (List.mem_flatMap.mpr ⟨change, member, inFilter⟩)
    exact CatalogTable.acceptsChange_of_emptied (accepted original listedOriginal) alike
      (reworded.nulFree _ (List.mem_map_of_mem member)) identified
  obtain ⟨statements', compiled'⟩ := exists_compile_update_iff.mpr ⟨t, tableSame ▸ listed, accepted'⟩
  obtain ⟨t', listed', each'⟩ := compile_update_eq_ok_iff.mp compiled'
  obtain rfl := listed'.unique (tableSame ▸ listed)
  exact ⟨statements', compiled', map_results_eq each each' recordsSame
    fun _ _ _ _ update update' => update.2.emptiedSql_eq update'.2⟩

theorem delete_compilesAlike {node node' : Query.Delete} (compiled : c.compile idColumn (.delete node) = .ok statements)
    (reworded : (Query.delete node).Reworded (.delete node')) :
    c.CompilesAlike idColumn statements (.delete node') := by
  obtain ⟨t, listed, each⟩ := compile_delete_eq_ok_iff.mp compiled
  obtain ⟨tableSame, filtersSame⟩ := Query.Delete.mk.inj (Query.delete.inj reworded.same)
  obtain ⟨accepted, _⟩ := (List.forall₂_and_left _ _).mp each
  have accepted' : ∀ condition ∈ node'.filters, t.AcceptsIdFilter idColumn condition := by
    intro condition member
    obtain ⟨original, listedOriginal, alike⟩ := exists_of_map_eq filtersSame member
    have identified : ∀ text ∈ condition.texts, RecordId.isWellFormed text = true :=
      fun text inFilter => reworded.identified text (List.mem_flatMap.mpr ⟨condition, member, inFilter⟩)
    exact CatalogTable.acceptsIdFilter_of_emptied (accepted original listedOriginal) alike identified
  obtain ⟨statements', compiled'⟩ := exists_compile_delete_iff.mpr ⟨t, tableSame ▸ listed, accepted'⟩
  obtain ⟨t', listed', each'⟩ := compile_delete_eq_ok_iff.mp compiled'
  obtain rfl := listed'.unique (tableSame ▸ listed)
  exact ⟨statements', compiled', map_results_eq each each' filtersSame
    fun _ _ _ _ delete delete' _ => delete.2.emptiedSql_eq delete'.2⟩

/-- A query with other texts compiles too, and to the same but for its texts. -/
theorem compilesAlike_of_reworded (compiled : c.compile idColumn q = .ok statements) (reworded : q.Reworded q') :
    c.CompilesAlike idColumn statements q' := by
  have same := reworded.same
  cases q with
  | select node =>
    cases q' with
    | select node' => exact select_compilesAlike compiled reworded
    | insert _ | update _ | delete _ => simp [Query.emptied] at same
  | insert node =>
    cases q' with
    | insert node' => exact insert_compilesAlike compiled reworded
    | select _ | update _ | delete _ => simp [Query.emptied] at same
  | update node =>
    cases q' with
    | update node' => exact update_compilesAlike compiled reworded
    | select _ | insert _ | delete _ => simp [Query.emptied] at same
  | delete node =>
    cases q' with
    | delete node' => exact delete_compilesAlike compiled reworded
    | select _ | insert _ | update _ => simp [Query.emptied] at same

end Catalog
end Tenancy
