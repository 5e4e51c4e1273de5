import Tenancy.Proofs.Catalog.Names
import Tenancy.Proofs.Query.Operand

/-! The texts that stand on the left of an operator, at any depth of a condition. The compiler takes each
for a column and checks it, those aside that stand somewhere on the right of a null test. -/
namespace Tenancy

namespace Operand

def leftTexts : Side → Operand → List String
  | .left, .value (.string text) => [text]
  | _, .value _ => []
  | _, .nested left _ right => left.leftTexts .left ++ right.leftTexts .right

/-- Those that stand on the right of a null test. -/
def ignoredTexts : Operand → List String
  | .value _ => []
  | .nested left operator right => left.ignoredTexts ++
      if operator.isNullTest then right.leftTexts .right else right.ignoredTexts

/-- The operand with nothing on the right of its null tests. -/
def pruned : Operand → Operand
  | .value json => .value json
  | .nested left operator right =>
    .nested left.pruned operator (if operator.isNullTest then .value .null else right.pruned)

variable {t : CatalogTable}

theorem leftTexts_nested (side : Side) (left right : Operand) (operator : Operator) :
    (nested left operator right).leftTexts side = left.leftTexts .left ++ right.leftTexts .right := by
  cases side <;> rfl

theorem mem_leftTexts_iff {o : Operand} {side : Side} {text : String} :
    text ∈ o.leftTexts side ↔ text ∈ o.pruned.leftTexts side ∨ text ∈ o.ignoredTexts := by
  induction o generalizing side with
  | value json => simp [pruned, ignoredTexts]
  | nested left operator right ihl ihr =>
    simp only [pruned, ignoredTexts, leftTexts_nested, List.mem_append]
    by_cases tests : operator.isNullTest = true
    · simp [tests, ihl, leftTexts, or_assoc]
    · simp [tests, ihl, ihr]
      tauto

/-- A clause names what stands on the left, nothing being left on the right of a null test. -/
theorem names_clause (o : Operand) (side : Side) : (o.clause side).names = o.pruned.leftTexts side := by
  induction o generalizing side with
  | value json => cases side <;> cases json <;> rfl
  | nested left operator right ihl ihr =>
    rw [clause_nested, pruned, leftTexts_nested]
    split
    · simp [Sql.Clause.names, ihl, leftTexts]
    · simp [Sql.Clause.names, ihl, ihr]

/-- The compiler answers as if nothing stood on the right of a null test. -/
theorem clauseOf_pruned (o : Operand) (side : Side) : t.clauseOf side o.pruned = t.clauseOf side o := by
  induction o generalizing side with
  | value json => rfl
  | nested left operator right ihl ihr =>
    by_cases joins : operator.isConnective = true
    · have binary := Operator.not_isNullTest_of_isConnective joins
      cases left with
      | value json => cases side <;> cases right <;> simp [pruned, binary, CatalogTable.clauseOf, joins]
      | nested l o r =>
        cases right with
        | value json => cases side <;> simp [pruned, binary, CatalogTable.clauseOf, joins]
        | nested l' o' r' =>
          have first := ihl .left
          have second := ihr .right
          simp only [pruned] at first second
          cases side <;> simp [pruned, binary, CatalogTable.clauseOf, joins, first, second]
    · rw [pruned, clauseOf_other t side joins, clauseOf_other t side joins, ihl]
      by_cases tests : operator.isNullTest = true
      · simp [tests]
      · simp [tests, ihr]

end Operand

namespace Condition

def leftTexts (c : Condition) : List String := c.toOperand.leftTexts .left

def ignoredTexts (c : Condition) : List String := c.toOperand.ignoredTexts

def pruned (c : Condition) : Condition :=
  ⟨c.left.pruned, c.operator, if c.operator.isNullTest then .value .null else c.right.pruned⟩

end Condition

namespace CatalogTable

variable {t : CatalogTable} {c : Condition}

theorem filter_pruned (t : CatalogTable) (c : Condition) : t.filter c.pruned = t.filter c :=
  Operand.clauseOf_pruned c.toOperand .left

theorem admits_of_filter {clause : Sql.Clause} (filters : t.filter c = .ok clause) {column : String}
    (member : column ∈ c.pruned.leftTexts) : t.Admits column := by
  have fits : c.toOperand.Fits t .left := .inr (filter_eq_ok_iff.mp filters).1
  apply Operand.admits_of_mem_names fits
  rw [Operand.names_clause]
  exact member

/-- What stands on the right of a null test is never looked at, and every column elsewhere is checked. So a
condition that names a column which the table does not admit is refused, except where all such columns stand on
the right of null tests and the rest is accepted. -/
theorem unlisted_column_refused_iff (t : CatalogTable) (c : Condition) :
    t.filter c.pruned = t.filter c ∧
    (∀ column ∈ c.pruned.leftTexts, ¬ t.Admits column → ∃ fault, t.filter c = .error fault) ∧
    (((∃ column ∈ c.leftTexts, ¬ t.Admits column) → ∃ fault, t.filter c = .error fault) ↔
      ((∃ clause, t.filter c = .ok clause) → ∀ column ∈ c.ignoredTexts, t.Admits column)) := by
  refine ⟨t.filter_pruned c, ?_, ?_⟩
  · intro column member unlisted
    apply eq_error_of_ne_ok
    rintro ⟨clause, filters⟩
    exact unlisted (admits_of_filter filters member)
  · constructor
    · rintro refused ⟨clause, filters⟩ column member
      by_contra unlisted
      obtain ⟨fault, refusal⟩ := refused ⟨column, Operand.mem_leftTexts_iff.mpr (.inr member), unlisted⟩
      rw [filters] at refusal
      cases refusal
    · rintro admitted ⟨column, member, unlisted⟩
      apply eq_error_of_ne_ok
      rintro ⟨clause, filters⟩
      rcases Operand.mem_leftTexts_iff.mp member with checked | ignored
      · exact unlisted (admits_of_filter filters checked)
      · exact unlisted (admitted ⟨clause, filters⟩ column ignored)

/-- A column that the table does not list, in a condition on the right of a null test. -/
theorem unlisted_column_filtered :
    ∃ (t : CatalogTable) (c : Condition) (clause : Sql.Clause), Condition.decode c.toJson = .ok c ∧
      "salary" ∈ c.leftTexts ∧ ¬ t.Admits "salary" ∧ t.filter c = .ok clause ∧
      clause.sql = "age IS NULL" := by
  let t : CatalogTable := ⟨"users", none, [{ name := "age", type := "number" }]⟩
  let c : Condition :=
    ⟨.value (.string "age"), .isNull, .nested (.value (.string "salary")) .eq (.value (.ofInt 1))⟩
  have unlisted : ¬ t.Admits "salary" := fun admitted => absurd admitted.listed (by decide)
  exact ⟨t, c, _, c.decode_toJson, by decide, unlisted, rfl, rfl⟩

end CatalogTable
end Tenancy
