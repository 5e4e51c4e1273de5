import Tenancy.Proofs.Catalog.Whitelist
import Tenancy.Proofs.Sql.Part

/-! What inserts and updates write is told by their statements: record by record the columns in their order,
each with its value, and the identifier of an updated record. -/
namespace Tenancy

open Sql

theorem RecordId.text_injective : Function.Injective RecordId.text := by
  rintro ⟨text, _⟩ ⟨_, _⟩ rfl
  rfl

namespace Sql

/-- A column and its value, as a statement shows them. -/
def Assignment.shown (a : Assignment) : String × Reading := (a.column, a.value.reading)

theorem told_assignment : Told (fun a => isName a.column = true) Assignment.sql Assignment.shown where
  tells := by
    intro a b rest rest' named named' boundary boundary' same
    have equals (more : List Char) : IsBoundary ('=' :: more) := by
      rintro c ⟨⟩
      decide
    simp only [Assignment.sql, String.toList_append, List.append_assoc] at same
    obtain ⟨columns, tails⟩ := told_name.tells named named' (equals _) (equals _) same
    obtain ⟨values, rests⟩ := told_value.tells trivial trivial boundary boundary' (List.cons.inj tails).2
    exact ⟨Prod.ext columns values, rests⟩

theorem Literal.sql_eq_of_reading_eq {a b : Literal} (same : a.reading = b.reading) : a.sql = b.sql := by
  apply String.toList_injective
  rw [← Operand.written_literal, ← Operand.written_literal, same]

theorem map_shown_eq_iff {as bs : List Assignment} :
    as.map Assignment.shown = bs.map Assignment.shown ↔
      as.map Assignment.column = bs.map Assignment.column ∧
      as.map (fun a => a.value.reading) = bs.map fun b => b.value.reading := by
  constructor
  · intro same
    have columns := congrArg (List.map Prod.fst) same
    have values := congrArg (List.map Prod.snd) same
    rw [List.map_map, List.map_map] at columns values
    exact ⟨columns, values⟩
  · rintro ⟨columns, values⟩
    have zipped := congrArg₂ List.zip columns values
    rw [List.zip_map', List.zip_map'] at zipped
    exact zipped

theorem sql_eq_of_shown_eq {a b : Assignment} (same : a.shown = b.shown) : a.sql = b.sql := by
  obtain ⟨columns, values⟩ := Prod.mk.inj same
  rw [Assignment.sql, Assignment.sql, columns, Literal.sql_eq_of_reading_eq values]

variable {table idColumn : String} {returning : List String} {as bs : List Assignment}

/-- The lists of columns and of values stand apart, and are told one after the other. -/
theorem insert_sql_eq_iff (named : ∀ a ∈ as, isName a.column = true) (named' : ∀ b ∈ bs, isName b.column = true) :
    (Statement.insert table as returning).sql = (Statement.insert table bs returning).sql ↔
      as.map Assignment.shown = bs.map Assignment.shown := by
  constructor
  · intro same
    have chars := congrArg String.toList same
    cases as with
    | nil =>
      cases bs with
      | nil => rfl
      | cons b bs => simp [Statement.sql_insert] at chars
    | cons a as =>
      cases bs with
      | nil => simp [Statement.sql_insert] at chars
      | cons b bs =>
        simp only [Statement.sql_insert, List.isEmpty_cons, Bool.false_eq_true, if_false, List.map_cons,
          String.toList_append, String.reduceToList, List.cons_append, List.nil_append, List.append_assoc,
          List.cons.injEq, List.append_cancel_left_eq, true_and] at chars
        have names := told_name.comap Assignment.column
        have values := told_value.comap Assignment.value
        obtain ⟨columns, tails⟩ := names.commaSeparated named named' (mayFollow_closing _) (mayFollow_closing _) chars
        simp only [List.cons.injEq, true_and] at tails
        obtain ⟨readings, _⟩ := values.commaSeparated (fun _ _ => trivial) (fun _ _ => trivial)
          (mayFollow_closing _) (mayFollow_closing _) tails
        exact map_shown_eq_iff.mpr ⟨columns, readings⟩
  · intro same
    obtain ⟨columns, readings⟩ := map_shown_eq_iff.mp same
    have values : as.map (fun a => a.value.sql) = bs.map fun b => b.value.sql :=
      map_eq_of_related (map_eq_map_iff_related.mp readings) fun a b => Literal.sql_eq_of_reading_eq
    have empty : as.isEmpty = bs.isEmpty := by simpa using congrArg List.isEmpty columns
    rw [Statement.sql_insert, Statement.sql_insert, columns, values, empty]

theorem update_sql_eq_iff {id id' : RecordId} (nonempty : as ≠ []) (nonempty' : bs ≠ [])
    (named : ∀ a ∈ as, isName a.column = true) (named' : ∀ b ∈ bs, isName b.column = true) :
    (Statement.update table as idColumn id returning).sql = (Statement.update table bs idColumn id' returning).sql ↔
      as.map Assignment.shown = bs.map Assignment.shown ∧ id = id' := by
  constructor
  · intro same
    obtain ⟨a, as, rfl⟩ := List.exists_cons_of_ne_nil nonempty
    obtain ⟨b, bs, rfl⟩ := List.exists_cons_of_ne_nil nonempty'
    have chars := congrArg String.toList same
    simp only [Statement.sql_update, List.map_cons, idFilterSql, String.toList_append, String.reduceToList,
      List.cons_append, List.nil_append, List.append_assoc, List.cons.injEq, List.append_cancel_left_eq,
      true_and] at chars
    obtain ⟨shown, tails⟩ := told_assignment.commaSeparated named named' (mayFollow_blank _) (mayFollow_blank _) chars
    simp only [List.cons.injEq, true_and, List.append_right_inj] at tails
    obtain ⟨ids, _⟩ := told_value.tells (a := .text id.text) (b := .text id'.text) trivial trivial
      (mayFollow_closing _).isBoundary (mayFollow_closing _).isBoundary tails
    exact ⟨shown, RecordId.text_injective (Reading.text.inj ids)⟩
  · rintro ⟨same, rfl⟩
    have texts : as.map Assignment.sql = bs.map Assignment.sql :=
      map_eq_of_related (map_eq_map_iff_related.mp same) fun a b => sql_eq_of_shown_eq
    rw [Statement.sql_update, Statement.sql_update, texts]

end Sql

/-- The same columns in the same order with the same values, numbers being compared by their text. -/
def Record.Alike (a b : Record) : Prop :=
  List.Forall₂ (fun entry other => entry.1 = other.1 ∧ entry.2.PrintsAlike other.2) a.entries b.entries

namespace CatalogTable

variable {t : CatalogTable}

theorem shown_assigned_eq_iff {entry other : String × Json} (literal : entry.2.IsLiteral)
    (literal' : other.2.IsLiteral) :
    (assigned entry).shown = (assigned other).shown ↔ entry.1 = other.1 ∧ entry.2.PrintsAlike other.2 := by
  have values : entry.2.literal.reading = other.2.literal.reading ↔ entry.2.PrintsAlike other.2 := by
    constructor
    · exact Operand.printsAlike_of_reading_eq literal literal'
    · intro alike
      simpa only [Operand.reading_literal] using Operand.value_reading_eq alike .right
  simp only [Assignment.shown, assigned, Prod.mk.injEq, values]

theorem shown_eq_iff_alike {a b : Record} (admitted : t.AdmitsRecord a) (admitted' : t.AdmitsRecord b) :
    (a.entries.map assigned).map Assignment.shown = (b.entries.map assigned).map Assignment.shown ↔
      Record.Alike a b := by
  have literals {record : Record} (admitted : t.AdmitsRecord record) :
      ∀ entry ∈ record.entries, entry.2.IsLiteral := fun entry member => (admitted entry member).2
  apply map_results_eq_iff (related_map (literals admitted)) (related_map (literals admitted'))
  rintro entry _ other _ ⟨literal, rfl⟩ ⟨literal', rfl⟩
  exact shown_assigned_eq_iff literal literal'

theorem isName_assigned {record : Record} (admitted : t.AdmitsRecord record) :
    ∀ a ∈ record.entries.map assigned, isName a.column = true := by
  intro a member
  obtain ⟨entry, listed, rfl⟩ := List.mem_map.mp member
  exact (admitted entry listed).1.isName

theorem insertOf_sql_eq_iff {a b : Record} (admitted : t.AdmitsRecord a) (admitted' : t.AdmitsRecord b) :
    (t.insertOf a).sql = (t.insertOf b).sql ↔ Record.Alike a b := by
  rw [insertOf, insertOf, insert_sql_eq_iff (isName_assigned admitted) (isName_assigned admitted'),
    shown_eq_iff_alike admitted admitted']

theorem idCondition_injective {idColumn : String} {id id' : RecordId}
    (same : idCondition idColumn id.text = idCondition idColumn id'.text) : id = id' := by
  apply RecordId.text_injective
  simpa [idCondition] using same

/-- Changes of the same record that write the same. -/
structure ChangesAlike (idColumn : String) (a b : Query.Change) : Prop where
  named : ∃ id : RecordId, a.filter = idCondition idColumn id.text ∧ b.filter = idCondition idColumn id.text
  updates : Record.Alike a.updates b.updates

theorem updateOf_sql_eq_iff {idColumn : String} {a b : Query.Change} {s s' : Statement}
    (accepted : t.AcceptsChange idColumn a) (update : t.IsUpdateOf idColumn a s)
    (accepted' : t.AcceptsChange idColumn b) (update' : t.IsUpdateOf idColumn b s') :
    s.sql = s'.sql ↔ ChangesAlike idColumn a b := by
  obtain ⟨id, named, rfl⟩ := update
  obtain ⟨id', named', rfl⟩ := update'
  rw [update_sql_eq_iff (by simpa using accepted.nonempty) (by simpa using accepted'.nonempty)
    (isName_assigned accepted.record) (isName_assigned accepted'.record),
    shown_eq_iff_alike accepted.record accepted'.record]
  constructor
  · rintro ⟨alike, rfl⟩
    exact ⟨⟨id, named, named'⟩, alike⟩
  · rintro ⟨⟨one, same, same'⟩, alike⟩
    have first : id = one := idCondition_injective (named.symm.trans same)
    have second : id' = one := idCondition_injective (named'.symm.trans same')
    exact ⟨alike, first.trans second.symm⟩

end CatalogTable

namespace Catalog

variable {c : Catalog} {idColumn table : String} {statements statements' : List Statement}

theorem insert_statements_eq_iff {records records' : List Record}
    (compiled : c.compile idColumn (.insert ⟨table, records⟩) = .ok statements)
    (compiled' : c.compile idColumn (.insert ⟨table, records'⟩) = .ok statements') :
    statements.map Statement.sql = statements'.map Statement.sql ↔ List.Forall₂ Record.Alike records records' := by
  obtain ⟨t, listed, admitted, rfl⟩ := compile_insert_eq_ok_iff.mp compiled
  obtain ⟨t', listed', admitted', rfl⟩ := compile_insert_eq_ok_iff.mp compiled'
  obtain rfl := listed.unique listed'
  apply map_results_eq_iff (related_map admitted) (related_map admitted')
  rintro record _ record' _ ⟨admitted, rfl⟩ ⟨admitted', rfl⟩
  exact CatalogTable.insertOf_sql_eq_iff admitted admitted'

theorem update_statements_eq_iff {changes changes' : List Query.Change}
    (compiled : c.compile idColumn (.update ⟨table, changes⟩) = .ok statements)
    (compiled' : c.compile idColumn (.update ⟨table, changes'⟩) = .ok statements') :
    statements.map Statement.sql = statements'.map Statement.sql ↔
      List.Forall₂ (CatalogTable.ChangesAlike idColumn) changes changes' := by
  obtain ⟨t, listed, related⟩ := compile_update_eq_ok_iff.mp compiled
  obtain ⟨t', listed', related'⟩ := compile_update_eq_ok_iff.mp compiled'
  obtain rfl := listed.unique listed'
  apply map_results_eq_iff related related'
  rintro change s change' s' ⟨accepted, update⟩ ⟨accepted', update'⟩
  exact CatalogTable.updateOf_sql_eq_iff accepted update accepted' update'

/-- Inserts into a table have the same statements just when they write the same records, and updates just when
they write the same into records of the same identifiers, one after the other. -/
theorem statements_eq_iff_records_alike (c : Catalog) (idColumn table : String) :
    (∀ (records records' : List Record) (statements statements' : List Statement),
      c.compile idColumn (.insert ⟨table, records⟩) = .ok statements →
      c.compile idColumn (.insert ⟨table, records'⟩) = .ok statements' →
      (statements.map Statement.sql = statements'.map Statement.sql ↔
        List.Forall₂ Record.Alike records records')) ∧
    ∀ (changes changes' : List Query.Change) (statements statements' : List Statement),
      c.compile idColumn (.update ⟨table, changes⟩) = .ok statements →
      c.compile idColumn (.update ⟨table, changes'⟩) = .ok statements' →
      (statements.map Statement.sql = statements'.map Statement.sql ↔
        List.Forall₂ (CatalogTable.ChangesAlike idColumn) changes changes') :=
  ⟨fun _ _ _ _ compiled compiled' => insert_statements_eq_iff compiled compiled',
    fun _ _ _ _ compiled compiled' => update_statements_eq_iff compiled compiled'⟩

/-- A text may look like two values, or like a null. -/
theorem statements_eq_iff_of_lookalikes :
    ∃ (c : Catalog) (record record' : Record) (change change' : Query.Change) (s s' u u' : Statement),
      c.compile "id" (.insert ⟨"users", [record]⟩) = .ok [s] ∧
      c.compile "id" (.insert ⟨"users", [record']⟩) = .ok [s'] ∧
      s.sql = "INSERT INTO users (name, note) VALUES ('a'', ''b', NULL) RETURNING id, name, note" ∧
      s'.sql = "INSERT INTO users (name, note) VALUES ('a', 'b') RETURNING id, name, note" ∧
      ¬ List.Forall₂ Record.Alike [record] [record'] ∧
      c.compile "id" (.update ⟨"users", [change]⟩) = .ok [u] ∧
      c.compile "id" (.update ⟨"users", [change']⟩) = .ok [u'] ∧
      u.sql = "UPDATE users SET note=NULL WHERE (id='a00000000000000') RETURNING id, name, note" ∧
      u'.sql = "UPDATE users SET note='NULL' WHERE (id='a00000000000000') RETURNING id, name, note" ∧
      ¬ List.Forall₂ (CatalogTable.ChangesAlike "id") [change] [change'] := by
  let c : Catalog := ⟨"o1", none, [⟨"users", none, [{ name := "id", type := "id" },
    { name := "name", type := "text" }, { name := "note", type := "text" }]⟩]⟩
  have first : c.compile "id" (.insert ⟨"users", [⟨[("name", .string "a', 'b"), ("note", .null)]⟩]⟩) =
      .ok [.insert "users" [⟨"name", .text "a', 'b"⟩, ⟨"note", .null⟩] ["id", "name", "note"]] := by rfl
  have second : c.compile "id" (.insert ⟨"users", [⟨[("name", .string "a"), ("note", .string "b")]⟩]⟩) =
      .ok [.insert "users" [⟨"name", .text "a"⟩, ⟨"note", .text "b"⟩] ["id", "name", "note"]] := by rfl
  have third : c.compile "id" (.update ⟨"users", [⟨CatalogTable.idCondition "id" "a00000000000000",
      ⟨[("note", .null)]⟩⟩]⟩) =
      .ok [.update "users" [⟨"note", .null⟩] "id" ⟨"a00000000000000", by decide⟩ ["id", "name", "note"]] := by rfl
  have fourth : c.compile "id" (.update ⟨"users", [⟨CatalogTable.idCondition "id" "a00000000000000",
      ⟨[("note", .string "NULL")]⟩⟩]⟩) = .ok [.update "users" [⟨"note", .text "NULL"⟩] "id"
      ⟨"a00000000000000", by decide⟩ ["id", "name", "note"]] := by rfl
  have inserts := (statements_eq_iff_records_alike c "id" "users").1 _ _ _ _ first second
  have updates := (statements_eq_iff_records_alike c "id" "users").2 _ _ _ _ third fourth
  refine ⟨c, _, _, _, _, _, _, _, _, first, second, by rfl, by rfl, ?_, third, fourth, by rfl, by rfl, ?_⟩
  · rw [← inserts]
    decide
  · rw [← updates]
    decide

end Catalog
end Tenancy
