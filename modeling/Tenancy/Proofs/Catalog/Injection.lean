import Tenancy.Catalog.Metadata
import Tenancy.Proofs.Catalog.Literals

/-! No text breaks out of its literal: neither a text of a query in the statements that it compiles to,
nor the identifier of an organization in the statement that asks for its metadata. -/
namespace Tenancy

open Sql

/-- Statements that scan to texts, with nothing harmful outside of them. -/
structure Sql.Contained (statements : List String) (scans : List Scan) (texts : List (List String)) : Prop where
  scanned : statements.map scan = scans.map some
  literals : scans.map Scan.literals = texts
  harmless : ∀ found ∈ scans, Harmless found.outside

/-- The scan of a statement whose names are plain. -/
def Sql.Statement.found (s : Statement) : Scan := ⟨unquoted s.emptiedSql, s.texts⟩

theorem Sql.contained_of_named {statements : List Statement}
    (named : ∀ s ∈ statements, ∀ name ∈ s.names, isName name = true) :
    Contained (statements.map Statement.sql) (statements.map Statement.found)
      (statements.map Statement.texts) where
  scanned := by
    rw [List.map_map, List.map_map]
    exact List.map_congr_left fun s member => (Statement.reads (named s member)).scan
  literals := List.map_map
  harmless := by
    rw [List.forall_mem_map]
    exact fun s member => harmless_of_isCalm (Statement.reads (named s member)).calm

/-- The scan of the metadata statement of an organization, given the statement before its literal. -/
theorem Sql.contained_quotedText {head : String} (calm : isCalm head.toList = true) (text : String) :
    Contained [head ++ quotedText text] [⟨unquoted (head ++ quotedText ""), [text]⟩] [[text]] := by
  have whole := (Settles.plain calm).append_reads (Reads.quoted text)
  refine ⟨?_, rfl, ?_⟩
  · rw [List.map_singleton, List.map_singleton, whole.scan, List.nil_append]
  · rw [List.forall_mem_singleton]
    exact harmless_of_isCalm whole.calm

namespace Catalog

theorem isCalm_metadataHead {config : Config} (organizations : isName config.organizationsTable = true)
    (objects : isName config.objectsTable = true) (fields : isName config.objectFieldsTable = true) :
    isCalm (metadataHead config).toList = true := by
  unfold metadataHead
  iterate 11 refine isCalm_string_append ?_ ?_
  -- the pieces in their order, written out so that no name is compared with a text
  · exact isCalm_ofList rfl
  · exact isCalm_ofList rfl
  · exact isCalm_ofList rfl
  · exact isCalm_ofList rfl
  · exact isCalm_name organizations
  · exact isCalm_ofList rfl
  · exact isCalm_name objects
  · exact isCalm_ofList rfl
  · exact isCalm_ofList rfl
  · exact isCalm_name fields
  · exact isCalm_ofList rfl
  · exact isCalm_ofList rfl

theorem metadataSql_eq_ok_iff {config : Config} {organization sql : String} :
    metadataSql config organization = .ok sql ↔
      isName config.organizationsTable = true ∧ isName config.objectsTable = true ∧
      isName config.objectFieldsTable = true ∧ '\x00' ∉ organization.toList ∧
      sql = metadataHead config ++ quotedText organization := by
  simp only [metadataSql, check_bind_eq_ok_iff, checkName_eq_ok_iff, Literal.ofText, List.contains_eq_mem,
    decide_eq_true_eq]
  by_cases nul : '\x00' ∈ organization.toList
  · simp [nul, refuse]
  · simp only [nul, if_false, Except.ok.injEq, not_false_eq_true, true_and, Literal.sql, eq_comm]

/-- A load sends the metadata statement or nothing at all. -/
theorem load_received_iff {config : Config} {organization sql : String} {b : Backend} :
    (load config organization b).2.received = b.received ++ [sql] ↔
      organization ≠ "" ∧ metadataSql config organization = .ok sql := by
  by_cases empty : organization = ""
  · simp [load, empty]
  cases asked : metadataSql config organization with
  | error error => simp [load, empty, asked]
  | ok sent =>
    have received : (load config organization b).2.received = b.received ++ [sent] := by
      rw [← b.execute_received sent]
      simp only [load, String.isEmpty_iff, empty, if_false, asked]
      split <;> simp_all
    simp [received, empty]

theorem contained_of_compile {c : Catalog} {idColumn : String} {q : Query} {statements : List Statement}
    (named : c.Named) (compiled : c.compile idColumn q = .ok statements) :
    Contained (statements.map Statement.sql) (statements.map Statement.found) q.texts := by
  obtain ⟨t, listed⟩ := exists_lists_of_compile compiled
  have plain := (names_isName_iff compiled listed).mpr fun _ => named.columns t (table?_mem listed.found)
  rw [← texts_of_compile compiled]
  exact contained_of_named plain

/-- The statements of a query scan to exactly its texts, harmlessly, and other texts leave what stands
outside of them as it is. So it is with the statement that loads the catalog of an organization. -/
theorem texts_stay_in_literals {c : Catalog} {idColumn : String} {q : Query} {statements : List Statement}
    (named : c.Named) (compiled : c.compile idColumn q = .ok statements) :
    (∃ scans, Contained (statements.map Statement.sql) scans q.texts ∧
      ∀ q', q.Reworded q' → ∃ statements' scans', c.compile idColumn q' = .ok statements' ∧
        Contained (statements'.map Statement.sql) scans' q'.texts ∧
        scans'.map Scan.outside = scans.map Scan.outside) ∧
    ∀ (config : Config) (organization : String) (b : Backend) (sql : String),
      (load config organization b).2.received = b.received ++ [sql] →
      ∃ found, Contained [sql] [found] [[organization]] ∧
        ∀ organization' : String, organization' ≠ "" → '\x00' ∉ organization'.toList →
          ∃ sql' found', (load config organization' b).2.received = b.received ++ [sql'] ∧
            Contained [sql'] [found'] [[organization']] ∧ found'.outside = found.outside := by
  constructor
  · refine ⟨_, contained_of_compile named compiled, fun q' reworded => ?_⟩
    obtain ⟨statements', compiled', same⟩ := compilesAlike_of_reworded compiled reworded
    refine ⟨statements', _, compiled', contained_of_compile named compiled', ?_⟩
    simpa only [List.map_map, Function.comp_def, Statement.found] using congrArg (List.map unquoted) same
  · intro config organization b sql received
    obtain ⟨_, asked⟩ := load_received_iff.mp received
    obtain ⟨organizations, objects, fields, _, rfl⟩ := metadataSql_eq_ok_iff.mp asked
    have calm := isCalm_metadataHead organizations objects fields
    refine ⟨_, contained_quotedText calm organization, fun organization' nonempty nulFree => ?_⟩
    have asked' := metadataSql_eq_ok_iff.mpr ⟨organizations, objects, fields, nulFree, rfl⟩
    exact ⟨_, _, load_received_iff.mpr ⟨nonempty, asked'⟩, contained_quotedText calm organization', rfl⟩

/-- A user may be called as a statement is written. -/
theorem texts_stay_in_literals_of_rename :
    ∃ (c : Catalog) (statements : List Statement) (scans : List Scan), c.Named ∧
      c.compile "id" (.update ⟨"users", [⟨CatalogTable.idCondition "id" "aaaaaaaaaaaaaaa",
        ⟨[("name", .string "x' WHERE (id=''); DROP TABLE users; --")]⟩⟩]⟩) = .ok statements ∧
      Contained (statements.map Statement.sql) scans
        [["x' WHERE (id=''); DROP TABLE users; --", "aaaaaaaaaaaaaaa"]] := by
  let c : Catalog := ⟨"o1", none, [⟨"users", none, [{ name := "id", type := "id" },
    { name := "name", type := "string" }]⟩]⟩
  have named : c.Named := ⟨by decide, by decide⟩
  have compiled : c.compile "id" (.update ⟨"users", [⟨CatalogTable.idCondition "id" "aaaaaaaaaaaaaaa",
      ⟨[("name", .string "x' WHERE (id=''); DROP TABLE users; --")]⟩⟩]⟩) = .ok [.update "users"
      [⟨"name", .text "x' WHERE (id=''); DROP TABLE users; --"⟩] "id" ⟨"aaaaaaaaaaaaaaa", by decide⟩
      ["id", "name"]] := by
    rfl
  obtain ⟨⟨scans, contained, _⟩, _⟩ := texts_stay_in_literals named compiled
  exact ⟨c, _, scans, named, compiled, contained⟩

end Catalog
end Tenancy
