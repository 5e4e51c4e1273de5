import Tenancy.Proofs.Catalog.Admission
import Tenancy.Proofs.Sql.Reading

/-! What the text of a condition tells. The text of an accepted condition is that of its tokens, which
keep apart, and its reading is the condition up to the right sides of null tests and to the numbers that
print alike. -/
namespace Tenancy

open Sql

/-- Equality of values, numbers being compared by their text. -/
def Json.PrintsAlike : Json → Json → Prop
  | .number m, .number n => m.text = n.text
  | a, b => a = b

namespace Operand

/-- The same operand, up to the right sides of null tests and to numbers of one text. -/
def Alike : Operand → Operand → Prop
  | .value a, .value b => a.PrintsAlike b
  | .nested left operator right, .nested left' operator' right' =>
    left.Alike left' ∧ operator = operator' ∧ (operator.isNullTest = true ∨ right.Alike right')
  | _, _ => False

def reading (side : Side) (o : Operand) : Reading := (o.clause side).reading

theorem reading_nested {side : Side} {left right : Operand} {operator : Operator} :
    (nested left operator right).reading side =
      if operator.isNullTest then .test (left.reading .left) operator
      else .binary (left.reading .left) operator (right.reading .right) := by
  rw [reading, clause_nested]
  split <;> rfl

theorem reading_literal {json : Json} : (value json).reading .right = json.literal.reading := by
  cases json <;> rfl

/-! The text of a condition is that of its tokens. -/

theorem written_literal (literal : Literal) : writtenTokens literal.reading.tokens = literal.sql.toList := by
  cases literal <;> simp [Literal.reading, Reading.tokens, writtenTokens, Token.written, Literal.sql]

theorem clause_value (json : Json) (side : Side) :
    (∃ column, (value json).clause side = .column column) ∨
      ∃ literal, (value json).clause side = .literal literal := by
  cases side <;> cases json <;> simp [clause]

theorem written_tokens (o : Operand) (side : Side) :
    writtenTokens (o.reading side).tokens = (o.clause side).sql.toList := by
  induction o generalizing side with
  | value json =>
    rw [reading]
    obtain ⟨column, plain⟩ | ⟨literal, plain⟩ := clause_value json side
    · rw [plain]
      exact List.append_nil column.toList
    · rw [plain]
      exact written_literal literal
  | nested left operator right ihl ihr =>
    rw [reading_nested, clause_nested]
    split
    · rename_i tests
      simp [Reading.tokens, Clause.sql, ihl, Token.written, Operator.spaced_of_isNullTest tests]
    · rename_i binary
      rw [Reading.tokens, Clause.sql]
      split
      · rename_i joins
        simp [ihl, ihr, Token.written, Operator.spaced_of_isConnective joins]
      · by_cases compares : operator.isComparison = true <;>
          simp [ihl, ihr, Token.written, Operator.spaced, compares, binary]

/-! The tokens of an accepted condition keep apart. -/

variable {t : CatalogTable}

theorem keepApart_value {json : Json} {side : Side} (fits : (value json).Fits t side) {more : List Token}
    (rest : KeepApart more) (boundary : IsBoundary (writtenTokens more)) :
    KeepApart (((value json).reading side).tokens ++ more) := by
  cases side with
  | left =>
    cases json with
    | string column => exact ⟨⟨(fits.resolve_right id).isName, boundary⟩, rest⟩
    | _ => exact (fits.elim id id).elim
  | right =>
    rw [reading_literal]
    cases json with
    | string s => exact ⟨boundary, rest⟩
    | _ => exact ⟨⟨isScalar_sql rfl, boundary⟩, rest⟩

theorem keepApart_tokens {o : Operand} {side : Side} (fits : o.Fits t side) {more : List Token}
    (rest : KeepApart more) (boundary : IsBoundary (writtenTokens more)) :
    KeepApart ((o.reading side).tokens ++ more) := by
  induction o generalizing side more with
  | value json => exact keepApart_value fits rest boundary
  | nested left operator right ihl ihr =>
    obtain ⟨fitsLeft, fitsRight⟩ := ((fits_nested_iff t).mp fits).sides
    rw [reading_nested]
    by_cases tests : operator.isNullTest = true
    · rw [if_pos tests, Reading.tokens, List.append_assoc]
      exact ihl fitsLeft ⟨.inl tests, rest⟩ (isBoundary_symbol operator more)
    · have last := fitsRight.resolve_left tests
      rw [if_neg tests, Reading.tokens]
      split
      · have closed : KeepApart (.closing :: more) := ⟨trivial, rest⟩
        have second := ihr last closed (isBoundary_closing more)
        have symbol := second.symbol_reading operator
        rw [List.cons_append, List.append_assoc, List.cons_append, List.append_assoc, List.singleton_append]
        exact ⟨trivial, ihl fitsLeft symbol (isBoundary_symbol operator _)⟩
      · have symbol := (ihr last rest boundary).symbol_reading operator
        rw [List.append_assoc, List.cons_append]
        exact ihl fitsLeft symbol (isBoundary_symbol operator _)

/-! A reading tells what it is read from. -/

theorem numberText_ne_of_letter (n : Json.Number) {word : String} {c : Char} (member : c ∈ word.toList)
    (letter : isNumberChar c = false) : n.text ≠ word := by
  rintro rfl
  simp [(signed_numberText n).numeric.chars c member] at letter

theorem value_reading_eq {a b : Json} (alike : a.PrintsAlike b) (side : Side) :
    (value a).reading side = (value b).reading side := by
  unfold Json.PrintsAlike at alike
  split at alike
  · rename_i m n
    cases side <;> exact congrArg Reading.scalar alike
  · rw [alike]

theorem printsAlike_of_reading_eq {a b : Json} (first : a.IsLiteral) (second : b.IsLiteral)
    (same : a.literal.reading = b.literal.reading) : a.PrintsAlike b := by
  have null (n : Json.Number) : (Literal.number n).sql ≠ Literal.null.sql :=
    numberText_ne_of_letter n (c := 'N') (by decide) (by decide)
  have bool (n : Json.Number) (b : Bool) : (Literal.number n).sql ≠ (Literal.bool b).sql := by
    cases b
    · exact numberText_ne_of_letter n (c := 'F') (by decide) (by decide)
    · exact numberText_ne_of_letter n (c := 'T') (by decide) (by decide)
  have word (b : Bool) : (Literal.bool b).sql ≠ Literal.null.sql := by cases b <;> decide
  have bools (b b' : Bool) : (Literal.bool b).sql = (Literal.bool b').sql ↔ b = b' := by
    cases b <;> cases b' <;> decide
  have numbers (m n : Json.Number) : (Literal.number m).sql = (Literal.number n).sql ↔ m.text = n.text := Iff.rfl
  revert same
  cases a with
  | array items => exact first.elim
  | object members => exact first.elim
  | _ =>
    cases b with
    | array items => exact second.elim
    | object members => exact second.elim
    | _ => simp [Json.literal, Literal.reading, Json.PrintsAlike, null, bool, word, bools, numbers,
        (null _).symm, (bool _ _).symm, (word _).symm]

theorem Alike.reading_eq {a b : Operand} (alike : a.Alike b) (side : Side) : a.reading side = b.reading side := by
  induction a generalizing b side with
  | value json =>
    cases b with
    | value json' => exact value_reading_eq alike side
    | nested left operator right => exact alike.elim
  | nested left operator right ihl ihr =>
    cases b with
    | value json => exact alike.elim
    | nested left' operator' right' =>
      obtain ⟨alikeLeft, rfl, alikeRight⟩ := alike
      rw [reading_nested, reading_nested, ihl alikeLeft]
      by_cases tests : operator.isNullTest = true
      · rw [if_pos tests, if_pos tests]
      · rw [ihr (alikeRight.resolve_left tests)]

theorem alike_of_value_reading_eq {a b : Json} {side : Side} (first : (value a).Fits t side)
    (second : (value b).Fits t side) (same : (value a).reading side = (value b).reading side) :
    a.PrintsAlike b := by
  cases side with
  | left =>
    cases a with
    | string column =>
      cases b with
      | string column' => exact congrArg Json.string (Reading.column.inj same)
      | _ => exact (second.elim id id).elim
    | _ => exact (first.elim id id).elim
  | right =>
    rw [reading_literal, reading_literal] at same
    exact printsAlike_of_reading_eq (first.resolve_right id) (second.resolve_right id) same

theorem value_reading_ne_nested {json : Json} {left right : Operand} {operator : Operator} {side : Side} :
    (value json).reading side ≠ (nested left operator right).reading side := by
  rw [reading_nested]
  obtain ⟨column, plain⟩ | ⟨literal, plain⟩ := clause_value json side
  · rw [reading, plain]
    split <;> exact nofun
  · rw [reading, plain]
    cases literal <;> split <;> exact nofun

theorem alike_of_reading_eq {a b : Operand} {side : Side} (first : a.Fits t side) (second : b.Fits t side)
    (same : a.reading side = b.reading side) : a.Alike b := by
  induction a generalizing b side with
  | value json =>
    cases b with
    | value json' => exact alike_of_value_reading_eq first second same
    | nested left operator right => exact value_reading_ne_nested same
  | nested left operator right ihl ihr =>
    cases b with
    | value json => exact value_reading_ne_nested same.symm
    | nested left' operator' right' =>
      obtain ⟨fitsLeft, fitsRight⟩ := ((fits_nested_iff t).mp first).sides
      obtain ⟨fitsLeft', fitsRight'⟩ := ((fits_nested_iff t).mp second).sides
      rw [reading_nested, reading_nested] at same
      by_cases tests : operator.isNullTest = true
      · by_cases tests' : operator'.isNullTest = true
        · rw [if_pos tests, if_pos tests'] at same
          obtain ⟨sameLeft, rfl⟩ := Reading.test.inj same
          exact ⟨ihl fitsLeft fitsLeft' sameLeft, rfl, .inl tests⟩
        · rw [if_pos tests, if_neg tests'] at same
          exact nomatch same
      · by_cases tests' : operator'.isNullTest = true
        · rw [if_neg tests, if_pos tests'] at same
          exact nomatch same
        · rw [if_neg tests, if_neg tests'] at same
          obtain ⟨sameLeft, rfl, sameRight⟩ := Reading.binary.inj same
          have alikeRight := ihr (fitsRight.resolve_left tests) (fitsRight'.resolve_left tests) sameRight
          exact ⟨ihl fitsLeft fitsLeft' sameLeft, rfl, .inr alikeRight⟩

end Operand
end Tenancy
