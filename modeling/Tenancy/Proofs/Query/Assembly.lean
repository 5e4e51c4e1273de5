import Tenancy.Proofs.Query.Grouping
import Tenancy.Proofs.Sql.Part

/-! Conditions that callers put together from comparisons and null tests of columns. They all compile, and
a reader of their text recovers them, whatever stands after it. -/
namespace Tenancy

open Sql

/-! A reader of conditions whose operators have plain sides. -/
namespace Sql

/-- Reads a column and an operator and, unless that is a null test, a value. -/
def readLeaf (text : List Char) : Option (Reading × List Char) := do
  let (column, text) ← readName text
  let (operator, text) ← readOperator text
  if operator.isNullTest then return (.test (.column column) operator, text)
  let (value, text) ← readValue text
  return (.binary (.column column) operator value, text)

/-- Reads a condition with groups up to a depth. -/
def readGroups : Nat → List Char → Option (Reading × List Char)
  | depth + 1, '(' :: text => do
    let (left, text) ← readGroups depth text
    let (operator, text) ← readOperator text
    let (right, text) ← readGroups depth text
    match text with
    | ')' :: rest => return (.binary left operator right, rest)
    | _ => none
  | _, text => readLeaf text

/-- No group stands deeper than there are parentheses before it. -/
def readCondition (text : List Char) : Option (Reading × List Char) := readGroups (text.count '(') text

theorem readGroups_of_leaf {text : List Char} (plain : text.head? ≠ some '(') (depth : Nat) :
    readGroups depth text = readLeaf text := by
  unfold readGroups
  split
  · simp at plain
  · rfl

theorem readOperator_connective {operator : Operator} (joins : operator.isConnective = true) (rest : List Char) :
    readOperator (operator.spaced.toList ++ rest) = some (operator, rest) := by
  cases operator <;> first | rfl | cases joins

theorem head?_of_isName {name : String} (named : isName name = true) (rest : List Char) :
    (name.toList ++ rest).head? ≠ some '(' := by
  cases chars : name.toList with
  | nil => simp [isName, chars] at named
  | cons c tail =>
    have start : c ∈ name.toList := by simp [chars]
    rintro ⟨⟩
    exact absurd (isNameChar_of_mem named start) (by decide)

theorem readLeaf_compare {column : String} {operator : Operator} {literal : Literal} {rest : List Char}
    (named : isName column = true) (binary : ¬ operator.isNullTest = true) (boundary : IsBoundary rest) :
    readLeaf (column.toList ++ (operator.spaced.toList ++ (literal.sql.toList ++ rest))) =
      some (.binary (.column column) operator literal.reading, rest) := by
  have opens := (literal.endsBefore boundary).opensOperand (by cases literal <;> simp [Literal.token])
  rw [Literal.written_token] at opens
  simp [readLeaf, readName_append named (isBoundary_spaced _ _), readOperator_spaced (.inr opens), binary,
    readValue_append literal boundary]

theorem readLeaf_test {column : String} {operator : Operator} (named : isName column = true)
    (tests : operator.isNullTest = true) (rest : List Char) :
    readLeaf (column.toList ++ (operator.spaced.toList ++ rest)) =
      some (.test (.column column) operator, rest) := by
  simp [readLeaf, readName_append named (isBoundary_spaced _ _), readOperator_spaced (.inl tests), tests]

end Sql

/-- How a caller puts a condition together. -/
inductive Assembly where
  | compare (column : String) (operator : Operator) (value : Value)
  | test (column : String) (operator : Operator)
  | and (left right : Assembly)
  | or (left right : Assembly)

namespace Assembly

def condition : Assembly → Condition
  | .compare column operator value => .compare column operator value
  | .test column operator => .unary column operator
  | .and left right => left.condition.and right.condition
  | .or left right => left.condition.or right.condition

/-- The columns, operators and groups, with texts by their content and other values by their printed form. -/
def reading : Assembly → Reading
  | .compare column operator value => .binary (.column column) operator value.toJson.literal.reading
  | .test column operator => .test (.column column) operator
  | .and left right => .binary left.reading .and right.reading
  | .or left right => .binary left.reading .or right.reading

/-- Columns of a table are compared with scalars by operators that take one, or tested for null. -/
def IsOver (t : CatalogTable) : Assembly → Prop
  | .compare column operator value => t.Admits column ∧ ¬ operator.isConnective = true ∧
      ¬ operator.isNullTest = true ∧ value.toJson.IsLiteral
  | .test column operator => t.Admits column ∧ operator.isNullTest = true
  | .and left right | .or left right => left.IsOver t ∧ right.IsOver t

/-- How many groups stand in each other. -/
def depth : Assembly → Nat
  | .compare .. | .test .. => 0
  | .and left right | .or left right => max left.depth right.depth + 1

variable {t : CatalogTable}

theorem IsOver.accepted {a : Assembly} (sound : a.IsOver t) : a.condition.toOperand.Accepted t := by
  induction a with
  | compare column operator value =>
    obtain ⟨admitted, other, _, literal⟩ := sound
    apply (Operand.accepted_other_iff other).mpr
    exact ⟨.inl admitted, .inr (.inl literal)⟩
  | test column operator =>
    obtain ⟨admitted, tests⟩ := sound
    have other : ¬ operator.isConnective = true := fun joins =>
      Operator.not_isNullTest_of_isConnective joins tests
    apply (Operand.accepted_other_iff other).mpr
    exact ⟨.inl admitted, .inl tests⟩
  | and left right ihl ihr | or left right ihl ihr =>
    apply (Operand.accepted_connective_iff rfl).mpr
    exact ⟨ihl sound.1, ihr sound.2⟩

theorem IsOver.reading_eq {a : Assembly} (sound : a.IsOver t) (side : Side) :
    a.condition.toOperand.reading side = a.reading := by
  induction a generalizing side with
  | compare column operator value =>
    obtain ⟨_, _, binary, _⟩ := sound
    simp only [condition, Condition.compare, Condition.toOperand, Operand.reading_nested, if_neg binary,
      Operand.reading_literal]
    rfl
  | test column operator =>
    simp only [condition, Condition.unary, Condition.toOperand, Operand.reading_nested, if_pos sound.2]
    rfl
  | and left right ihl ihr =>
    change (Operand.nested left.condition.toOperand .and right.condition.toOperand).reading side = _
    rw [Operand.reading_nested, ihl sound.1, ihr sound.2]
    rfl
  | or left right ihl ihr =>
    change (Operand.nested left.condition.toOperand .or right.condition.toOperand).reading side = _
    rw [Operand.reading_nested, ihl sound.1, ihr sound.2]
    rfl

theorem mayFollow_spaced {operator : Operator} (joins : operator.isConnective = true) (rest : List Char) :
    MayFollow (operator.spaced.toList ++ rest) := by
  intro c first
  left
  cases operator <;> first | (cases first; rfl) | cases joins

/-- Two conditions that are read in a group are read as its sides. -/
theorem readGroups_connective {operator : Operator} (joins : operator.isConnective = true) {left right : Reading}
    {depth : Nat}
    (readsLeft : ∀ rest, MayFollow rest →
      readGroups depth (writtenTokens left.tokens ++ rest) = some (left, rest))
    (readsRight : ∀ rest, MayFollow rest →
      readGroups depth (writtenTokens right.tokens ++ rest) = some (right, rest)) (rest : List Char) :
    readGroups (depth + 1) (writtenTokens (Reading.binary left operator right).tokens ++ rest) =
      some (.binary left operator right, rest) := by
  have first := readsLeft _ (mayFollow_spaced joins (writtenTokens right.tokens ++ ')' :: rest))
  have second := readsRight _ (mayFollow_closing rest)
  simp [Reading.tokens, joins, readGroups, first, readOperator_connective joins, second]

theorem IsOver.readGroups_written {a : Assembly} (sound : a.IsOver t) {depth : Nat} (deep : a.depth ≤ depth)
    {rest : List Char} (follows : MayFollow rest) :
    readGroups depth (writtenTokens a.reading.tokens ++ rest) = some (a.reading, rest) := by
  induction a generalizing depth rest with
  | compare column operator value =>
    obtain ⟨admitted, other, binary, _⟩ := sound
    simp only [reading, Reading.tokens, if_neg other, Literal.tokens_reading, List.singleton_append,
      writtenTokens_cons, writtenTokens_nil, Token.written_column, Token.written_symbol, Literal.written_token,
      List.append_assoc, List.nil_append]
    rw [readGroups_of_leaf (head?_of_isName admitted.isName _),
      readLeaf_compare admitted.isName binary follows.isBoundary]
  | test column operator =>
    obtain ⟨admitted, tests⟩ := sound
    simp only [reading, Reading.tokens, List.cons_append, List.nil_append, writtenTokens_cons,
      Token.written_column, Token.written_symbol, writtenTokens_nil, List.append_nil, List.append_assoc]
    rw [readGroups_of_leaf (head?_of_isName admitted.isName _), readLeaf_test admitted.isName tests]
  | and left right ihl ihr | or left right ihl ihr =>
    obtain ⟨inner, rfl⟩ : ∃ inner, depth = inner + 1 := Nat.exists_eq_add_one.mpr (Nat.zero_lt_of_lt deep)
    have both := Nat.max_le.mp (Nat.le_of_succ_le_succ deep)
    apply readGroups_connective rfl
    · intro rest follows
      exact ihl sound.1 both.1 follows
    · intro rest follows
      exact ihr sound.2 both.2 follows

theorem depth_le_count (a : Assembly) : a.depth ≤ (writtenTokens a.reading.tokens).count '(' := by
  induction a with
  | compare column operator value | test column operator => exact Nat.zero_le _
  | and left right ihl ihr | or left right ihl ihr =>
    simp [depth, reading, Reading.tokens, Operator.isConnective]
    omega

/-- A condition of comparisons and null tests compiles, and whatever stands after its text, the reader finds
its columns, operators, groups and values in it and leaves the rest. -/
theorem read_back (a : Assembly) (t : CatalogTable) (sound : a.IsOver t) :
    ∃ clause, t.filter a.condition = .ok clause ∧ ∀ rest, MayFollow rest →
      readCondition (clause.sql.toList ++ rest) = some (a.reading, rest) := by
  refine ⟨a.condition.toOperand.clause .left, ?_, ?_⟩
  · exact CatalogTable.filter_eq_ok_iff.mpr ⟨sound.accepted, rfl⟩
  · intro rest follows
    rw [← Operand.written_tokens, sound.reading_eq .left]
    apply sound.readGroups_written _ follows
    have deep := a.depth_le_count
    simp
    omega

/-- A text may look like the end of its own condition. -/
theorem read_back_of_quotes :
    ∃ (t : CatalogTable) (a : Assembly) (clause : Clause), a.IsOver t ∧ t.filter a.condition = .ok clause ∧
      clause.sql = "(a=''') OR a=''' AND (b IS NULL OR b<=-5))" ∧
      readCondition (clause.sql.toList ++ " OR a=1".toList) =
        some (.binary (.binary (.column "a") .eq (.text "') OR a='")) .and
          (.binary (.test (.column "b") .isNull) .or (.binary (.column "b") .lte (.scalar "-5"))),
          " OR a=1".toList) := by
  let t : CatalogTable := ⟨"t", none, [{ name := "a", type := "text" }, { name := "b", type := "number" }]⟩
  let a : Assembly := .and (.compare "a" .eq (.string "') OR a='"))
    (.or (.test "b" .isNull) (.compare "b" .lte (.integer (-5))))
  have first : t.Admits "a" := ⟨by decide, by decide⟩
  have second : t.Admits "b" := ⟨by decide, by decide⟩
  have sound : a.IsOver t :=
    ⟨⟨first, by decide, by decide, by simp [Value.toJson, Json.IsLiteral]⟩, ⟨second, rfl⟩,
      ⟨second, by decide, by decide, trivial⟩⟩
  obtain ⟨clause, filters, reads⟩ := read_back a t sound
  obtain rfl : a.condition.toOperand.clause .left = clause := (CatalogTable.filter_eq_ok_iff.mp filters).2.symm
  exact ⟨t, a, _, sound, filters, by rfl, reads _ (by rintro c ⟨⟩; exact .inl rfl)⟩

end Assembly
end Tenancy
