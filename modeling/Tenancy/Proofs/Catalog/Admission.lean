import Tenancy.Catalog.Compile
import Tenancy.Proofs.Checked

/-! What a table admits in a statement, said without the checks of the compiler: names of columns,
values, conditions and sort entries. For each part of a query one lemma tells when it compiles and
what it compiles to. -/
namespace Tenancy

open Sql

/-- Scalars without a NUL character, which are what a statement can hold. -/
def Json.IsLiteral : Json → Prop
  | .string s => '\x00' ∉ s.toList
  | .array _ | .object _ => False
  | _ => True

/-- The literal of a scalar. -/
def Json.literal : Json → Literal
  | .bool b => .bool b
  | .number n => .number n
  | .string s => .text s
  | _ => .null

theorem literalOf_eq_ok_iff {value : Json} {literal : Literal} :
    literalOf value = .ok literal ↔ value.IsLiteral ∧ literal = value.literal := by
  cases value with
  | string s =>
    by_cases nul : '\x00' ∈ s.toList <;>
      simp [literalOf, Literal.ofJson, Literal.ofText, refuse, Json.IsLiteral, Json.literal, nul, eq_comm]
  | _ => simp [literalOf, Literal.ofJson, refuse, Json.IsLiteral, Json.literal, eq_comm]

/-- Names of columns that may stand in a statement on a table. -/
structure CatalogTable.Admits (t : CatalogTable) (column : String) : Prop where
  isName : isName column = true
  listed : column ∈ t.columnNames

theorem hasColumn_iff {t : CatalogTable} {name : String} :
    t.hasColumn name = true ↔ name ∈ t.columnNames := by
  simp [CatalogTable.hasColumn, CatalogTable.column?, CatalogTable.columnNames, List.find?_isSome]

theorem checkColumn_eq_ok_iff {t : CatalogTable} {name : String} :
    t.checkColumn name = .ok () ↔ t.Admits name := by
  rw [CatalogTable.checkColumn, check_bind_eq_ok_iff, checkName_eq_ok_iff]
  by_cases listed : t.hasColumn name = true
  · simp only [listed, if_true, pure_eq_ok_iff, and_true]
    exact ⟨fun named => ⟨named, hasColumn_iff.mp listed⟩, CatalogTable.Admits.isName⟩
  · simp only [listed, Bool.false_eq_true, if_false, refuse, reduceCtorEq, and_false, false_iff]
    exact fun admitted => listed (hasColumn_iff.mpr admitted.listed)

/-- The table of a catalog that a statement may name. -/
structure Catalog.Lists (c : Catalog) (name : String) (t : CatalogTable) : Prop where
  isName : isName name = true
  found : c.table? name = some t

theorem table?_name {c : Catalog} {name : String} {t : CatalogTable} (found : c.table? name = some t) :
    t.name = name := by
  simpa using List.find?_some found

theorem table?_mem {c : Catalog} {name : String} {t : CatalogTable} (found : c.table? name = some t) :
    t ∈ c.tables :=
  List.mem_of_find?_eq_some found

theorem checkTable_eq_ok_iff {c : Catalog} {name : String} {t : CatalogTable} :
    c.checkTable name = .ok t ↔ c.Lists name t := by
  rw [Catalog.checkTable, check_bind_eq_ok_iff, checkName_eq_ok_iff]
  cases found : c.table? name with
  | none =>
    simp only [refuse, reduceCtorEq, and_false, false_iff]
    intro listed
    simpa [found] using listed.found
  | some table =>
    rw [pure_eq_ok_iff]
    constructor
    · rintro ⟨named, rfl⟩
      exact ⟨named, found⟩
    · intro listed
      exact ⟨listed.isName, Option.some.inj (listed.found.symm.trans found)⟩

theorem Operator.not_isNullTest_of_isConnective {operator : Operator}
    (joins : operator.isConnective = true) : ¬ operator.isNullTest = true := by
  cases operator <;> simp_all [isConnective, isNullTest]

namespace Operand

variable (t : CatalogTable)

def NamesColumn : Operand → Prop
  | .value (.string column) => t.Admits column
  | _ => False

def IsLiteral : Operand → Prop
  | .value json => json.IsLiteral
  | .nested .. => False

/-- The nested conditions that a table accepts, at any depth. -/
def Accepted : Operand → Prop
  | .value _ => False
  | .nested left operator right =>
    if operator.isConnective then left.Accepted ∧ right.Accepted
    else (left.NamesColumn t ∨ left.Accepted) ∧
      (operator.isNullTest = true ∨ right.IsLiteral ∨ right.Accepted)

/-- What may stand on a side of an operator. -/
def Fits : Side → Operand → Prop
  | .left, o => o.NamesColumn t ∨ o.Accepted t
  | .right, o => o.IsLiteral ∨ o.Accepted t

/-- The clause of an operand, which depends on its side only where it is a plain value. -/
def clause : Side → Operand → Clause
  | .left, .value (.string column) => .column column
  | _, .value json => .literal json.literal
  | _, .nested left operator right =>
    if operator.isNullTest then .nullTest (left.clause .left) operator
    else .binary (left.clause .left) operator (right.clause .right)

theorem clause_nested {side : Side} {left right : Operand} {operator : Operator} :
    (nested left operator right).clause side =
      if operator.isNullTest then .nullTest (left.clause .left) operator
      else .binary (left.clause .left) operator (right.clause .right) := by
  cases side <;> rw [clause]

theorem clauseOf_value_eq_ok_iff {side : Side} {json : Json} {clause : Clause} :
    t.clauseOf side (.value json) = .ok clause ↔
      (Operand.value json).Fits t side ∧ clause = (Operand.value json).clause side := by
  cases side with
  | left =>
    cases json with
    | string column =>
      simp only [CatalogTable.clauseOf, check_bind_eq_ok_iff, pure_eq_ok_iff, checkColumn_eq_ok_iff, Fits,
        NamesColumn, Accepted, or_false, Operand.clause]
    | _ => simp [CatalogTable.clauseOf, refuse, Fits, NamesColumn, Accepted]
  | right =>
    simp only [CatalogTable.clauseOf, map_eq_ok_iff, literalOf_eq_ok_iff, Fits, IsLiteral, Accepted,
      or_false, Operand.clause]
    constructor
    · rintro ⟨_, ⟨fits, rfl⟩, rfl⟩
      exact ⟨fits, rfl⟩
    · rintro ⟨fits, rfl⟩
      exact ⟨_, ⟨fits, rfl⟩, rfl⟩

theorem Accepted.nested {t : CatalogTable} {o : Operand} (accepted : o.Accepted t) :
    ∃ left operator right, o = .nested left operator right := by
  cases o with
  | value json => exact accepted.elim
  | nested left operator right => exact ⟨left, operator, right, rfl⟩

theorem fits_nested_iff {side : Side} {left right : Operand} {operator : Operator} :
    (Operand.nested left operator right).Fits t side ↔ (Operand.nested left operator right).Accepted t := by
  cases side <;> simp [Fits, NamesColumn, IsLiteral]

/-- Both sides of an accepted condition fit, the right one of a null test aside. -/
theorem Accepted.sides {t : CatalogTable} {left right : Operand} {operator : Operator}
    (accepted : (Operand.nested left operator right).Accepted t) :
    left.Fits t .left ∧ (operator.isNullTest = true ∨ right.Fits t .right) := by
  unfold Accepted at accepted
  split at accepted
  · exact ⟨.inr accepted.1, .inr (.inr accepted.2)⟩
  · exact accepted

/-- Neither side of a connective may be a plain value. -/
theorem clauseOf_connective_eq_ok_iff {side : Side} {left right : Operand} {operator : Operator}
    {clause : Clause} (joins : operator.isConnective = true) :
    t.clauseOf side (.nested left operator right) = .ok clause ↔
      (∃ l o r, left = .nested l o r) ∧ (∃ l o r, right = .nested l o r) ∧
      ∃ first, t.clauseOf .left left = .ok first ∧
        ∃ second, t.clauseOf .right right = .ok second ∧ clause = .binary first operator second := by
  cases side <;> cases left <;> cases right <;>
    simp [CatalogTable.clauseOf, joins, refuse, bind_eq_ok_iff, functor_map_eq_ok_iff]

theorem clauseOf_other (side : Side) {left right : Operand} {operator : Operator}
    (other : ¬ operator.isConnective = true) : t.clauseOf side (.nested left operator right) = do
      let first ← t.clauseOf .left left
      if operator.isNullTest then return .nullTest first operator
      else return .binary first operator (← t.clauseOf .right right) := by
  cases side <;> cases left <;> cases right <;> simp only [CatalogTable.clauseOf, if_neg other]

theorem clauseOf_other_eq_ok_iff {side : Side} {left right : Operand} {operator : Operator}
    {clause : Clause} (other : ¬ operator.isConnective = true) :
    t.clauseOf side (.nested left operator right) = .ok clause ↔
      ∃ first, t.clauseOf .left left = .ok first ∧
        if operator.isNullTest then clause = .nullTest first operator
        else ∃ second, t.clauseOf .right right = .ok second ∧ clause = .binary first operator second := by
  rw [clauseOf_other t side other, bind_eq_ok_iff]
  split <;> simp only [bind_eq_ok_iff, pure_eq_ok_iff]

/-- An operand compiles just when it fits its side, and then to its clause. -/
theorem clauseOf_eq_ok_iff {o : Operand} {side : Side} {clause : Clause} :
    t.clauseOf side o = .ok clause ↔ o.Fits t side ∧ clause = o.clause side := by
  induction o generalizing side clause with
  | value json => exact clauseOf_value_eq_ok_iff t
  | nested left operator right ihl ihr =>
    rw [fits_nested_iff]
    by_cases joins : operator.isConnective = true
    · rw [clauseOf_connective_eq_ok_iff t joins]
      simp only [ihl, ihr, Accepted, if_pos joins, clause_nested,
        if_neg (Operator.not_isNullTest_of_isConnective joins)]
      constructor
      · rintro ⟨⟨l, o, r, rfl⟩, ⟨l', o', r', rfl⟩, _, ⟨fitsLeft, rfl⟩, _, ⟨fitsRight, rfl⟩, rfl⟩
        exact ⟨⟨(fits_nested_iff t).mp fitsLeft, (fits_nested_iff t).mp fitsRight⟩, rfl⟩
      · rintro ⟨⟨acceptedLeft, acceptedRight⟩, rfl⟩
        exact ⟨acceptedLeft.nested, acceptedRight.nested, _, ⟨.inr acceptedLeft, rfl⟩,
          _, ⟨.inr acceptedRight, rfl⟩, rfl⟩
    · rw [clauseOf_other_eq_ok_iff t joins]
      simp only [ihl, ihr, Accepted, if_neg joins, clause_nested]
      by_cases tests : operator.isNullTest = true
      · simp only [tests, if_true, true_or, and_true]
        constructor
        · rintro ⟨_, ⟨fits, rfl⟩, rfl⟩
          exact ⟨fits, rfl⟩
        · rintro ⟨fits, rfl⟩
          exact ⟨_, ⟨fits, rfl⟩, rfl⟩
      · simp only [tests, Bool.false_eq_true, if_false, false_or]
        constructor
        · rintro ⟨_, ⟨fitsLeft, rfl⟩, _, ⟨fitsRight, rfl⟩, rfl⟩
          exact ⟨⟨fitsLeft, fitsRight⟩, rfl⟩
        · rintro ⟨⟨fitsLeft, fitsRight⟩, rfl⟩
          exact ⟨_, ⟨fitsLeft, rfl⟩, _, ⟨fitsRight, rfl⟩, rfl⟩

end Operand

namespace CatalogTable

variable {t : CatalogTable}

theorem filter_eq_ok_iff {condition : Condition} {clause : Clause} :
    t.filter condition = .ok clause ↔
      condition.toOperand.Accepted t ∧ clause = condition.toOperand.clause .left := by
  rw [filter, Operand.clauseOf_eq_ok_iff]
  exact and_congr_left' (Operand.fits_nested_iff t)

/-- The column and the order that an entry asks for, whatever the table. -/
def keyOf (entry : String) : SortKey :=
  if descendingMark.isSuffixOf entry.toList then
    ⟨String.ofList (entry.toList.take (entry.toList.length - descendingMark.length)), true⟩
  else ⟨entry, false⟩

theorem keyOf_sql (entry : String) : (keyOf entry).sql = entry := by
  unfold keyOf
  split
  · rename_i marked
    obtain ⟨column, same⟩ := List.isSuffixOf_iff_suffix.mp marked
    apply String.toList_injective
    simp [SortKey.sql, ← same, descendingMark]
  · simp [SortKey.sql]

theorem keyOf_of_isName {key : SortKey} (named : isName key.column = true) : keyOf key.sql = key := by
  rcases key with ⟨column, descending⟩
  cases descending with
  | true => simp [keyOf, SortKey.sql, descendingMark, List.isSuffixOf_iff_suffix]
  | false =>
    have unmarked : ¬ descendingMark.isSuffixOf column.toList = true := by
      intro marked
      have blank : ' ' ∈ column.toList :=
        (List.isSuffixOf_iff_suffix.mp marked).subset (by decide)
      exact absurd (isNameChar_of_mem named blank) (by decide)
    simp [keyOf, SortKey.sql, unmarked]

/-- An admitted column, with at most one mark of descending order. -/
def AdmitsSort (t : CatalogTable) (entry : String) : Prop :=
  ∃ column, t.Admits column ∧ (entry = column ∨ entry = column ++ " DESC")

theorem admitsSort_iff {entry : String} : t.AdmitsSort entry ↔ t.Admits (keyOf entry).column := by
  constructor
  · rintro ⟨column, admitted, same⟩
    have key : ∃ descending, entry = (SortKey.mk column descending).sql := by
      rcases same with same | same
      · exact ⟨false, same⟩
      · exact ⟨true, same⟩
    obtain ⟨descending, rfl⟩ := key
    rw [keyOf_of_isName admitted.isName]
    exact admitted
  · intro admitted
    refine ⟨(keyOf entry).column, admitted, ?_⟩
    have text := keyOf_sql entry
    unfold SortKey.sql at text
    split at text
    · exact .inr text.symm
    · exact .inl text.symm

theorem sortKey_eq_ok_iff {entry : String} {key : SortKey} :
    t.sortKey entry = .ok key ↔ t.AdmitsSort entry ∧ key = keyOf entry := by
  have opened : t.sortKey entry = do
      t.checkColumn (keyOf entry).column
      return keyOf entry := rfl
  rw [opened, check_bind_eq_ok_iff, pure_eq_ok_iff, checkColumn_eq_ok_iff, admitsSort_iff]

/-- The listed columns, each at its first place, after those already selected. -/
def listedColumns (selected names : List String) : List String :=
  names.foldl (fun selected column => if column ∈ selected then selected else selected ++ [column])
    selected

def withIdentifier (idColumn : String) (selected : List String) : List String :=
  if idColumn ∈ selected then selected else selected ++ [idColumn]

theorem mem_listedColumns_iff {selected names : List String} {column : String} :
    column ∈ listedColumns selected names ↔ column ∈ selected ∨ column ∈ names := by
  induction names generalizing selected with
  | nil => simp [listedColumns]
  | cons name names ih =>
    have step : listedColumns selected (name :: names) =
        listedColumns (if name ∈ selected then selected else selected ++ [name]) names := rfl
    rw [step, ih]
    split
    · rename_i known
      rw [List.mem_cons]
      exact ⟨Or.imp_right .inr, fun member => member.elim .inl (·.elim (· ▸ .inl known) .inr)⟩
    · simp [or_assoc]

theorem selectedColumns_eq_ok_iff {idColumn : String} {selected names result : List String} :
    t.selectedColumns idColumn selected names = .ok result ↔
      (∀ name ∈ names, t.Admits name) ∧
      (idColumn ∉ listedColumns selected names → t.Admits idColumn) ∧
      result = withIdentifier idColumn (listedColumns selected names) := by
  induction names generalizing selected with
  | nil =>
    rw [selectedColumns]
    by_cases listed : idColumn ∈ selected
    · simp [listed, listedColumns, withIdentifier, eq_comm]
    · rw [if_neg listed, check_bind_eq_ok_iff, pure_eq_ok_iff, checkColumn_eq_ok_iff]
      simp [listed, listedColumns, withIdentifier]
  | cons name names ih =>
    rw [selectedColumns, check_bind_eq_ok_iff, checkColumn_eq_ok_iff, ih, List.forall_mem_cons,
      and_assoc]
    rfl

/-- The identifier column is admitted even where the list leaves it out. -/
def AdmitsFields (t : CatalogTable) (idColumn : String) : FieldList → Prop
  | .all | .count => True
  | .columns names => (∀ name ∈ names, t.Admits name) ∧ (idColumn ∉ names → t.Admits idColumn)

def selection (t : CatalogTable) (idColumn : String) : FieldList → Selected
  | .all => .columns t.columnNames
  | .count => .count
  | .columns names => .columns (withIdentifier idColumn (listedColumns [] names))

theorem selected_eq_ok_iff {idColumn : String} {fields : FieldList} {selected : Selected} :
    t.selected idColumn fields = .ok selected ↔
      t.AdmitsFields idColumn fields ∧ selected = t.selection idColumn fields := by
  cases fields with
  | all => simp [CatalogTable.selected, AdmitsFields, selection, eq_comm]
  | count => simp [CatalogTable.selected, AdmitsFields, selection, eq_comm]
  | columns names =>
    simp only [CatalogTable.selected, map_eq_ok_iff, selectedColumns_eq_ok_iff, mem_listedColumns_iff,
      List.not_mem_nil, false_or, AdmitsFields, selection, and_assoc, exists_and_left, exists_eq_left]

/-- What a record writes into each of its columns. -/
def assigned (entry : String × Json) : Assignment := ⟨entry.1, entry.2.literal⟩

/-- Records of admitted columns that hold literals. -/
def AdmitsRecord (t : CatalogTable) (record : Record) : Prop :=
  ∀ entry ∈ record.entries, t.Admits entry.1 ∧ entry.2.IsLiteral

theorem assignments_eq_ok_iff {record : Record} {assignments : List Assignment} :
    t.assignments record = .ok assignments ↔
      t.AdmitsRecord record ∧ assignments = record.entries.map assigned := by
  apply mapM_eq_ok_iff_map
  intro entry result
  rw [assignment, check_bind_eq_ok_iff, checkColumn_eq_ok_iff, and_assoc, bind_eq_ok_iff]
  simp only [literalOf_eq_ok_iff, pure_eq_ok_iff, and_assoc, exists_and_left, exists_eq_left, assigned]

/-- The condition that asks for one record by its identifier. -/
def idCondition (idColumn text : String) : Condition :=
  ⟨.value (.string idColumn), .eq, .value (.string text)⟩

theorem filteredId_eq_ok_iff {idColumn : String} {condition : Condition} {id : RecordId} :
    t.filteredId idColumn condition = .ok id ↔
      condition = idCondition idColumn id.text ∧ t.Admits idColumn := by
  unfold filteredId
  split
  · rename_i column text left operator right
    rcases condition with ⟨_, _, _⟩
    cases left
    cases operator
    cases right
    by_cases same : column = idColumn
    · subst same
      cases read : RecordId.ofString? text with
      | none =>
        have unread : ∀ id : RecordId, text ≠ id.text := by
          rintro id rfl
          simp [RecordId.ofString?_text] at read
        simp [refuse, idCondition, unread]
      | some found =>
        obtain rfl := RecordId.ofString?_eq_some_iff.mp read
        simp only [if_true, check_bind_eq_ok_iff, checkColumn_eq_ok_iff, pure_eq_ok_iff]
        constructor
        · rintro ⟨admitted, rfl⟩
          exact ⟨rfl, admitted⟩
        · rintro ⟨same, admitted⟩
          have texts : found.text = id.text := by simpa [idCondition] using same
          have reread := RecordId.ofString?_text id
          rw [← texts, read] at reread
          exact ⟨admitted, (Option.some.inj reread).symm⟩
    · simp [refuse, idCondition, same]
  · rename_i otherwise
    simp only [refuse, reduceCtorEq, false_iff]
    rintro ⟨rfl, _⟩
    exact otherwise _ _ rfl rfl rfl

theorem insertStatement_eq_ok_iff {record : Record} {statement : Statement} :
    t.insertStatement record = .ok statement ↔
      t.AdmitsRecord record ∧
      statement = .insert t.name (record.entries.map assigned) t.columnNames := by
  simp only [insertStatement, bind_eq_ok_iff, assignments_eq_ok_iff, pure_eq_ok_iff, and_assoc,
    exists_and_left, exists_eq_left]

theorem updateStatement_eq_ok_iff {idColumn : String} {change : Query.Change} {statement : Statement} :
    t.updateStatement idColumn change = .ok statement ↔
      ∃ id : RecordId, change.filter = idCondition idColumn id.text ∧ t.Admits idColumn ∧
        change.updates.entries ≠ [] ∧ idColumn ∉ change.updates.keys ∧ t.AdmitsRecord change.updates ∧
        statement = .update t.name (change.updates.entries.map assigned) idColumn id t.columnNames := by
  unfold updateStatement
  simp only [bind_eq_ok_iff (α := RecordId), refuse_or_eq_ok_iff, filteredId_eq_ok_iff, and_assoc,
    OrderedMap.isEmpty_iff, OrderedMap.contains_iff]
  simp only [bind_eq_ok_iff, assignments_eq_ok_iff, pure_eq_ok_iff, and_assoc, exists_and_left,
    exists_eq_left, ne_eq]

theorem deleteStatement_eq_ok_iff {idColumn : String} {condition : Condition} {statement : Statement} :
    t.deleteStatement idColumn condition = .ok statement ↔
      ∃ id : RecordId, condition = idCondition idColumn id.text ∧ t.Admits idColumn ∧
        statement = .delete t.name idColumn id t.columnNames := by
  simp only [deleteStatement, bind_eq_ok_iff, filteredId_eq_ok_iff, pure_eq_ok_iff, and_assoc]

end CatalogTable
end Tenancy
