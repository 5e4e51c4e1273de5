import Tenancy.Proofs.Catalog.Names

/-! The texts that a query puts into its statements, and queries that differ in nothing else. A table
accepts a query just when it accepts the query with every such text empty, the texts hold no NUL
character and identifiers are where they must be. -/
namespace Tenancy

open Sql

namespace Json

def texts : Json → List String
  | .string s => [s]
  | _ => []

def emptied : Json → Json
  | .string _ => .string ""
  | json => json

theorem texts_literal (json : Json) : json.literal.texts = json.texts := by
  cases json <;> rfl

theorem emptied_literal (json : Json) : json.emptied.literal = json.literal.emptied := by
  cases json <;> rfl

theorem isLiteral_iff (json : Json) :
    json.IsLiteral ↔ json.emptied.IsLiteral ∧ ∀ text ∈ json.texts, '\x00' ∉ text.toList := by
  cases json <;> simp [IsLiteral, emptied, texts]

end Json

namespace Operand

/-- The texts on right sides, from left to right. A null test writes none of its right side. -/
def texts : Side → Operand → List String
  | .left, .value _ => []
  | .right, .value json => json.texts
  | _, .nested left operator right =>
    left.texts .left ++ if operator.isNullTest then [] else right.texts .right

def emptied : Side → Operand → Operand
  | .left, .value json => .value json
  | .right, .value json => .value json.emptied
  | _, .nested left operator right =>
    .nested (left.emptied .left) operator (if operator.isNullTest then right else right.emptied .right)

theorem texts_nested {side : Side} {left right : Operand} {operator : Operator} :
    (nested left operator right).texts side =
      left.texts .left ++ if operator.isNullTest then [] else right.texts .right := by
  cases side <;> rw [texts]

theorem emptied_nested {side : Side} {left right : Operand} {operator : Operator} :
    (nested left operator right).emptied side =
      .nested (left.emptied .left) operator
        (if operator.isNullTest then right else right.emptied .right) := by
  cases side <;> rw [emptied]

theorem texts_clause (o : Operand) (side : Side) : (o.clause side).texts = o.texts side := by
  induction o generalizing side with
  | value json =>
    cases side with
    | left => cases json <;> rfl
    | right => exact json.texts_literal
  | nested left operator right ihl ihr =>
    rw [clause_nested, texts_nested]
    split
    · simpa [Clause.texts] using ihl .left
    · rw [Clause.texts, ihl, ihr]

theorem emptied_clause (o : Operand) (side : Side) :
    (o.emptied side).clause side = (o.clause side).emptied := by
  induction o generalizing side with
  | value json =>
    cases side with
    | left => cases json <;> rfl
    | right => exact congrArg Clause.literal json.emptied_literal
  | nested left operator right ihl ihr =>
    rw [emptied_nested, clause_nested, clause_nested, ihl]
    split
    · rfl
    · rw [ihr]
      rfl

variable {t : CatalogTable}

theorem accepted_emptied_iff {o : Operand} {side : Side} {Holds : Prop}
    (fits : o.Fits t side ↔ (o.emptied side).Fits t side ∧ Holds) :
    o.Accepted t ↔ (o.emptied side).Accepted t ∧ Holds := by
  cases o with
  | value json => cases side <;> simp [emptied, Accepted]
  | nested left operator right =>
    rw [emptied_nested] at fits ⊢
    rwa [fits_nested_iff, fits_nested_iff] at fits

theorem fits_emptied_iff (o : Operand) (side : Side) :
    o.Fits t side ↔ (o.emptied side).Fits t side ∧ ∀ text ∈ o.texts side, '\x00' ∉ text.toList := by
  induction o generalizing side with
  | value json =>
    cases side with
    | left => simp [emptied, texts]
    | right => simpa [Fits, emptied, IsLiteral, Accepted, texts] using json.isLiteral_iff
  | nested left operator right ihl ihr =>
    rw [fits_nested_iff, emptied_nested, fits_nested_iff, texts_nested, List.forall_mem_append]
    by_cases joins : operator.isConnective = true
    · have binary := Operator.not_isNullTest_of_isConnective joins
      simp only [Accepted, if_pos joins, if_neg binary]
      rw [accepted_emptied_iff (ihl .left), accepted_emptied_iff (ihr .right)]
      exact and_and_and_comm
    · simp only [Accepted, if_neg joins]
      by_cases tests : operator.isNullTest = true
      · simpa [tests, Fits] using ihl .left
      · simp only [tests, Bool.false_eq_true, if_false, false_or]
        exact (and_congr (ihl .left) (ihr .right)).trans and_and_and_comm

end Operand

namespace Condition

def texts (c : Condition) : List String := c.toOperand.texts .left

def emptied (c : Condition) : Condition :=
  ⟨c.left.emptied .left, c.operator,
    if c.operator.isNullTest then c.right else c.right.emptied .right⟩

theorem toOperand_emptied (c : Condition) : c.emptied.toOperand = c.toOperand.emptied .left :=
  Operand.emptied_nested.symm

theorem accepted_iff {t : CatalogTable} (c : Condition) :
    c.toOperand.Accepted t ↔
      c.emptied.toOperand.Accepted t ∧ ∀ text ∈ c.texts, '\x00' ∉ text.toList := by
  rw [toOperand_emptied]
  exact Operand.accepted_emptied_iff (Operand.fits_emptied_iff _ .left)

theorem texts_idCondition (idColumn text : String) :
    (CatalogTable.idCondition idColumn text).texts = [text] := rfl

end Condition

namespace Record

def texts (record : Record) : List String := record.entries.flatMap fun entry => entry.2.texts

def emptied (record : Record) : Record := ⟨record.entries.map fun entry => (entry.1, entry.2.emptied)⟩

theorem admits_iff {t : CatalogTable} (record : Record) :
    t.AdmitsRecord record ↔
      t.AdmitsRecord (emptied record) ∧ ∀ text ∈ texts record, '\x00' ∉ text.toList := by
  simp only [CatalogTable.AdmitsRecord, emptied, texts, List.forall_mem_map, List.mem_flatMap]
  constructor
  · intro admitted
    refine ⟨fun entry member => ?_, ?_⟩
    · exact ⟨(admitted entry member).1, ((Json.isLiteral_iff _).mp (admitted entry member).2).1⟩
    · rintro text ⟨entry, member, inEntry⟩
      exact ((Json.isLiteral_iff _).mp (admitted entry member).2).2 text inEntry
  · rintro ⟨admitted, nulFree⟩ entry member
    exact ⟨(admitted entry member).1, (Json.isLiteral_iff _).mpr ⟨(admitted entry member).2,
      fun text inEntry => nulFree text ⟨entry, member, inEntry⟩⟩⟩

theorem texts_assigned (record : Record) :
    (record.entries.map CatalogTable.assigned).flatMap (fun a => a.value.texts) = texts record := by
  rw [List.flatMap_map]
  exact congrArg (record.entries.flatMap ·) (funext fun entry => entry.2.texts_literal)

theorem keys_emptied (record : Record) : (emptied record).keys = record.keys := by
  simp [emptied, OrderedMap.keys, Function.comp_def]

theorem assigned_emptied (record : Record) :
    (emptied record).entries.map CatalogTable.assigned =
      (record.entries.map CatalogTable.assigned).map Assignment.emptied := by
  simp only [emptied, List.map_map]
  apply List.map_congr_left
  intro entry _
  simp [CatalogTable.assigned, Assignment.emptied, Json.emptied_literal]

end Record

namespace Query

def Change.texts (change : Change) : List String := Record.texts change.updates ++ change.filter.texts

def Change.emptied (change : Change) : Change := ⟨change.filter.emptied, Record.emptied change.updates⟩

/-- For each statement of the query the texts that stand in it, in their order. -/
def texts : Query → List (List String)
  | .select node => [node.filter.elim [] Condition.texts]
  | .insert node => node.records.map Record.texts
  | .update node => node.records.map Change.texts
  | .delete node => node.filters.map Condition.texts

/-- The query with all of its texts empty. -/
def emptied : Query → Query
  | .select node => .select { node with filter := node.filter.map Condition.emptied }
  | .insert node => .insert { node with records := node.records.map Record.emptied }
  | .update node => .update { node with records := node.records.map Change.emptied }
  | .delete node => .delete { node with filters := node.filters.map Condition.emptied }

/-- The texts that must be identifiers. -/
def identifiers : Query → List String
  | .select _ | .insert _ => []
  | .update node => node.records.flatMap fun change => change.filter.texts
  | .delete node => node.filters.flatMap Condition.texts

/-- Another query with other texts, such as statements can hold, and the same but for them. -/
structure Reworded (q q' : Query) : Prop where
  same : q'.emptied = q.emptied
  nulFree : ∀ texts ∈ q'.texts, ∀ text ∈ texts, '\x00' ∉ text.toList
  identified : ∀ text ∈ q'.identifiers, RecordId.isWellFormed text = true

end Query
end Tenancy
