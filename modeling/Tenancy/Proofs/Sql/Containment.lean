import Tenancy.Proofs.Sql.Number

/-! The names and the texts that stand in a statement. Where all names are plain, a statement scans
to exactly its texts, and what stands outside of them is the statement with every text empty. -/
namespace Tenancy.Sql

namespace Literal

def texts : Literal → List String
  | .text s => [s]
  | _ => []

def emptied : Literal → Literal
  | .text _ => .text ""
  | literal => literal

end Literal

namespace Clause

def names : Clause → List String
  | .column name => [name]
  | .literal _ => []
  | .nullTest left _ => left.names
  | .binary left _ right => left.names ++ right.names

def texts : Clause → List String
  | .column _ => []
  | .literal value => value.texts
  | .nullTest left _ => left.texts
  | .binary left _ right => left.texts ++ right.texts

def emptied : Clause → Clause
  | .column name => .column name
  | .literal value => .literal value.emptied
  | .nullTest left operator => .nullTest left.emptied operator
  | .binary left operator right => .binary left.emptied operator right.emptied

end Clause

def Selected.names : Selected → List String
  | .count => []
  | .columns names => names

def Assignment.emptied (a : Assignment) : Assignment := ⟨a.column, a.value.emptied⟩

namespace Statement

/-- The names of tables and columns, in the order of the statement. -/
def names : Statement → List String
  | .select selected table filter orderBy _ =>
    selected.names ++ table :: (filter.elim [] Clause.names ++ orderBy.map SortKey.column)
  | .insert table assignments returning => table :: (assignments.map Assignment.column ++ returning)
  | .update table assignments idColumn _ returning =>
    table :: (assignments.map Assignment.column ++ idColumn :: returning)
  | .delete table idColumn _ returning => table :: idColumn :: returning

def texts : Statement → List String
  | .select _ _ filter _ _ => filter.elim [] Clause.texts
  | .insert _ assignments _ => assignments.flatMap fun a => a.value.texts
  | .update _ assignments _ id _ => assignments.flatMap (fun a => a.value.texts) ++ [id.text]
  | .delete _ _ id _ => [id.text]

/-- The statement with every text empty, the identifier of its record among them. -/
def emptiedSql : Statement → String
  | .select selected table filter orderBy limit =>
    (select selected table (filter.map Clause.emptied) orderBy limit).sql
  | .insert table assignments returning => (insert table (assignments.map Assignment.emptied) returning).sql
  | .update table assignments idColumn _ returning =>
    "UPDATE " ++ table ++ " SET "
      ++ Text.commaSeparated (assignments.map fun a => a.emptied.sql)
      ++ " WHERE (" ++ (idColumn ++ "=" ++ quotedText "") ++ ")" ++ returningSql returning
  | .delete table idColumn _ returning =>
    "DELETE FROM " ++ table ++ " WHERE (" ++ (idColumn ++ "=" ++ quotedText "") ++ ")"
      ++ returningSql returning

theorem emptiedSql_select (selected : Selected) (table : String) (filter : Option Clause)
    (orderBy : List SortKey) (limit : Option UInt64) :
    (select selected table filter orderBy limit).emptiedSql =
      (select selected table (filter.map Clause.emptied) orderBy limit).sql := rfl

theorem emptiedSql_insert (table : String) (assignments : List Assignment) (returning : List String) :
    (insert table assignments returning).emptiedSql =
      (insert table (assignments.map Assignment.emptied) returning).sql := rfl

theorem emptiedSql_update (table : String) (assignments : List Assignment) (idColumn : String)
    (id : RecordId) (returning : List String) :
    (update table assignments idColumn id returning).emptiedSql =
      "UPDATE " ++ table ++ " SET " ++ Text.commaSeparated (assignments.map fun a => a.emptied.sql)
        ++ " WHERE (" ++ (idColumn ++ "=" ++ quotedText "") ++ ")" ++ returningSql returning := rfl

end Statement

/-! The parts of a statement that hold no texts are calm. -/

theorem isCalm_string_append {a b : String} (first : isCalm a.toList = true)
    (second : isCalm b.toList = true) : isCalm (a ++ b).toList = true := by
  rw [String.toList_append]
  exact isCalm_append first second

/-- Written out as its characters, a text is fast to check. -/
theorem isCalm_ofList {text : List Char} (calm : isCalm text = true) :
    isCalm (String.ofList text).toList = true := by
  rwa [String.toList_ofList]

theorem isCalm_name {name : String} (named : isName name = true) : isCalm name.toList = true := by
  apply isCalm_of_forall
  intro c member special
  have plain := isNameChar_of_mem named member
  simp only [List.mem_cons, List.not_mem_nil, or_false] at special
  rcases special with rfl | rfl | rfl | rfl | rfl <;> exact absurd plain (by decide)

theorem isCalm_symbol (operator : Operator) : isCalm operator.symbol.toList = true := by
  cases operator <;> decide

theorem symbol_ne_empty (operator : Operator) : operator.symbol ≠ "" := by
  cases operator <;> decide

theorem isCalm_commaSeparated {texts : List String} (calm : ∀ text ∈ texts, isCalm text.toList = true) :
    isCalm (Text.commaSeparated texts).toList = true := by
  unfold Text.commaSeparated
  induction texts with
  | nil => rfl
  | cons first texts ih =>
    rw [List.forall_mem_cons] at calm
    cases texts with
    | nil => exact calm.1
    | cons second texts =>
      exact isCalm_string_append (isCalm_string_append calm.1 (by decide)) (ih calm.2)

theorem isCalm_names {names : List String} (named : ∀ name ∈ names, isName name = true) :
    isCalm (Text.commaSeparated names).toList = true :=
  isCalm_commaSeparated fun name member => isCalm_name (named name member)

theorem isCalm_selected {selected : Selected} (named : ∀ name ∈ selected.names, isName name = true) :
    isCalm selected.sql.toList = true := by
  cases selected with
  | count => decide
  | columns names => exact isCalm_names named

theorem isCalm_orderBySql {keys : List SortKey} (named : ∀ key ∈ keys, isName key.column = true) :
    isCalm (orderBySql keys).toList = true := by
  unfold orderBySql
  split
  · rfl
  · apply isCalm_string_append (by decide)
    apply isCalm_commaSeparated
    intro text member
    obtain ⟨key, listed, rfl⟩ := List.mem_map.mp member
    unfold SortKey.sql
    split
    · exact isCalm_string_append (isCalm_name (named key listed)) (by decide)
    · exact isCalm_name (named key listed)

theorem isCalm_limitSql (limit : Option UInt64) : isCalm (limitSql limit).toList = true := by
  cases limit with
  | none => rfl
  | some limit =>
    apply isCalm_string_append (by decide)
    rw [decimalText, String.toList_ofList]
    exact (unsigned_decimalDigits _).calm

theorem isCalm_returningSql {columns : List String} (named : ∀ name ∈ columns, isName name = true) :
    isCalm (returningSql columns).toList = true :=
  isCalm_string_append (by decide) (isCalm_names named)

/-! Readings of the parts that hold texts. -/

theorem Literal.reads (literal : Literal) : Reads literal.sql literal.emptied.sql literal.texts := by
  cases literal with
  | null => exact (Settles.plain (by decide)).reads
  | bool b => cases b <;> exact (Settles.plain (by decide)).reads
  | number n => exact (Settles.plain (isCalm_numberText n)).reads
  | text s => exact Reads.quoted s

theorem Clause.reads (clause : Clause) (named : ∀ name ∈ clause.names, isName name = true) :
    Reads clause.sql clause.emptied.sql clause.texts := by
  induction clause with
  | column name => exact (Settles.plain (isCalm_name (named name List.mem_cons_self))).reads
  | literal value => exact value.reads
  | nullTest left operator ih =>
    have spaced := (ih named).append_plain (b := " ") (by decide) (by decide)
    exact (spaced.reads.append_plain (symbol_ne_empty operator) (isCalm_symbol operator)).reads
  | binary left operator right ihl ihr =>
    have first := ihl fun name member => named name (List.mem_append_left _ member)
    have second := ihr fun name member => named name (List.mem_append_right _ member)
    have symbol {a a' : String} {texts : List String} (before : Reads a a' texts) :=
      before.append_plain (symbol_ne_empty operator) (isCalm_symbol operator)
    have blank {a a' : String} {texts : List String} (before : Reads a a' texts) :=
      before.append_plain (b := " ") (by decide) (by decide)
    simp only [Clause.sql, Clause.emptied]
    split
    · have parenthesis : Settles "(" "(" [] := .plain (by decide)
      have opened := parenthesis.append_reads first
      have joined := (blank (symbol (blank opened).reads).reads).append_reads second
      exact (joined.append_plain (by decide) (by decide)).reads
    · split
      · exact (symbol first).append_reads second
      · exact (blank (symbol (blank first).reads).reads).append_reads second

theorem filterSql_reads {filter : Option Clause}
    (named : ∀ name ∈ filter.elim [] Clause.names, isName name = true) :
    Reads (filterSql filter) (filterSql (filter.map Clause.emptied)) (filter.elim [] Clause.texts) := by
  cases filter with
  | none => exact (Settles.plain rfl).reads
  | some clause => exact (Settles.plain (by decide)).append_reads (clause.reads named)

theorem Assignment.reads {a : Assignment} (named : isName a.column = true) :
    Reads a.sql a.emptied.sql a.value.texts :=
  (Settles.plain (isCalm_string_append (isCalm_name named) (by decide))).append_reads a.value.reads

theorem idFilterSql_reads {idColumn : String} (named : isName idColumn = true) (id : RecordId) :
    Reads (idFilterSql idColumn id) (idColumn ++ "=" ++ quotedText "") [id.text] :=
  (Settles.plain (isCalm_string_append (isCalm_name named) (by decide))).append_reads (.quoted id.text)

theorem Statement.reads {s : Statement} (named : ∀ name ∈ s.names, isName name = true) :
    Reads s.sql s.emptiedSql s.texts := by
  cases s with
  | select selected table filter orderBy limit =>
    simp only [Statement.names, List.forall_mem_append, List.forall_mem_cons, List.forall_mem_map] at named
    obtain ⟨selectedNamed, tableNamed, filterNamed, orderNamed⟩ := named
    have head : isCalm ("SELECT " ++ selected.sql ++ " FROM " ++ table).toList = true :=
      isCalm_string_append (isCalm_string_append (isCalm_string_append (by decide)
        (isCalm_selected selectedNamed)) (by decide)) (isCalm_name tableNamed)
    have filtered := (Settles.plain head).append_reads (filterSql_reads filterNamed)
    exact (filtered.append_calm (isCalm_orderBySql orderNamed)).append_calm (isCalm_limitSql limit)
  | insert table assignments returning =>
    simp only [Statement.names, List.forall_mem_append, List.forall_mem_cons, List.forall_mem_map] at named
    obtain ⟨tableNamed, columnsNamed, returningNamed⟩ := named
    have start : isCalm ("INSERT INTO " ++ table).toList = true :=
      isCalm_string_append (by decide) (isCalm_name tableNamed)
    cases assignments with
    | nil =>
      have whole := isCalm_string_append (isCalm_string_append start (b := " DEFAULT VALUES") (by decide))
        (isCalm_returningSql returningNamed)
      exact (Settles.plain whole).reads
    | cons first assignments =>
      have columns : isCalm (Text.commaSeparated ((first :: assignments).map Assignment.column)).toList =
          true := isCalm_names (List.forall_mem_map.mpr columnsNamed)
      have head := isCalm_string_append (isCalm_string_append (isCalm_string_append start
        (b := " (") (by decide)) columns) (b := ") VALUES (") (by decide)
      have values := Reads.commaSeparated fun a (_ : a ∈ first :: assignments) => a.value.reads
      have closed := ((Settles.plain head).append_reads values).append_plain (b := ")") (by decide) (by decide)
      have whole := closed.reads.append_calm (isCalm_returningSql returningNamed)
      rw [Statement.emptiedSql_insert]
      simpa [Statement.sql_insert, Statement.texts, Assignment.emptied, Function.comp_def] using whole
  | update table assignments idColumn id returning =>
    simp only [Statement.names, List.forall_mem_append, List.forall_mem_cons, List.forall_mem_map] at named
    obtain ⟨tableNamed, columnsNamed, idNamed, returningNamed⟩ := named
    have head := isCalm_string_append (isCalm_string_append (a := "UPDATE ") (by decide)
      (isCalm_name tableNamed)) (b := " SET ") (by decide)
    have values := Reads.commaSeparated fun a member => Assignment.reads (columnsNamed a member)
    have set := ((Settles.plain head).append_reads values).append_plain (b := " WHERE (") (by decide)
      (by decide)
    have filtered := (set.append_reads (idFilterSql_reads idNamed id)).append_plain (b := ")") (by decide)
      (by decide)
    exact filtered.reads.append_calm (isCalm_returningSql returningNamed)
  | delete table idColumn id returning =>
    simp only [Statement.names, List.forall_mem_cons] at named
    obtain ⟨tableNamed, idNamed, returningNamed⟩ := named
    have head := isCalm_string_append (isCalm_string_append (a := "DELETE FROM ") (by decide)
      (isCalm_name tableNamed)) (b := " WHERE (") (by decide)
    have filtered := ((Settles.plain head).append_reads (idFilterSql_reads idNamed id)).append_plain
      (b := ")") (by decide) (by decide)
    exact filtered.reads.append_calm (isCalm_returningSql returningNamed)

end Tenancy.Sql
