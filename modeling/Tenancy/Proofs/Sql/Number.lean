import Tenancy.Proofs.Numeral.Padded
import Tenancy.Proofs.Sql.Scan

/-! Numbers in statements: their digits, points and exponents are calm text, and each of their minus
signs stands directly before a digit. -/
namespace Tenancy

open Sql

theorem decimalDigits_ne_nil (n : Nat) : decimalDigits n ≠ [] := Nat.toDigits_ne_nil

namespace Sql

theorem isCalm_of_digits {text : List Char} (digits : ∀ c ∈ text, c.isDigit = true) :
    isCalm text = true := by
  apply isCalm_of_forall
  intro c member special
  have digit := digits c member
  simp only [List.mem_cons, List.not_mem_nil, or_false] at special
  rcases special with rfl | rfl | rfl | rfl | rfl <;> exact absurd digit (by decide)

theorem startsWithDigit_of_digits {text : List Char} (nonempty : text ≠ [])
    (digits : ∀ c ∈ text, c.isDigit = true) : startsWithDigit text = true := by
  cases text with
  | nil => exact absurd rfl nonempty
  | cons c text => exact digits c List.mem_cons_self

/-- The characters of printed numbers. -/
def isNumberChar (c : Char) : Bool := c.isDigit || ['.', 'e', '+', '-'].contains c

/-- Calm text of the characters of numbers, such as what may follow a first digit. -/
structure Numeric (text : List Char) : Prop where
  calm : isCalm text = true
  chars : ∀ c ∈ text, isNumberChar c = true

theorem numeric_of_all {text : List Char} (calm : isCalm text = true) (all : text.all isNumberChar = true) :
    Numeric text :=
  ⟨calm, List.all_eq_true.mp all⟩

theorem Numeric.append {text more : List Char} (first : Numeric text) (second : Numeric more) :
    Numeric (text ++ more) where
  calm := isCalm_append first.calm second.calm
  chars := List.forall_mem_append.mpr ⟨first.chars, second.chars⟩

theorem numeric_of_digits {text : List Char} (digits : ∀ c ∈ text, c.isDigit = true) :
    Numeric text where
  calm := isCalm_of_digits digits
  chars := fun c member => by simp [isNumberChar, digits c member]

/-- Numeric text that a minus sign may stand before. -/
structure Unsigned (text : List Char) : Prop extends Numeric text where
  digit : startsWithDigit text = true

theorem Unsigned.minus {text : List Char} (number : Unsigned text) : Numeric ('-' :: text) where
  calm := isCalm_cons_iff.mpr ⟨by decide, fun _ => number.digit, number.calm⟩
  chars := List.forall_mem_cons.mpr ⟨by decide, number.chars⟩

theorem Unsigned.append {text more : List Char} (number : Unsigned text) (rest : Numeric more) :
    Unsigned (text ++ more) :=
  ⟨number.toNumeric.append rest, startsWithDigit_append more number.digit⟩

theorem unsigned_of_digits {text : List Char} (nonempty : text ≠ [])
    (digits : ∀ c ∈ text, c.isDigit = true) : Unsigned text :=
  ⟨numeric_of_digits digits, startsWithDigit_of_digits nonempty digits⟩

theorem unsigned_decimalDigits (n : Nat) : Unsigned (decimalDigits n) :=
  unsigned_of_digits (decimalDigits_ne_nil n) fun _ => isDigit_of_mem_decimalDigits

end Sql

/-- Digits with a point among them, behind leading zeros or before closing ones. -/
theorem unsigned_positional {digits : List Char} (nonempty : digits ≠ [])
    (all : ∀ c ∈ digits, c.isDigit = true) (magnitude : Int) :
    Unsigned (Json.numberLayout.positional digits magnitude).toList := by
  unfold NumberLayout.positional
  split
  · have zeros : Numeric (List.replicate (magnitude.natAbs - 1) '0' ++ digits) := by
      apply numeric_of_digits
      intro c member
      exact (List.mem_append.mp member).elim isDigit_of_mem_zeros (all c)
    have start : Unsigned "0.".toList := ⟨numeric_of_all (by decide) (by decide), by decide⟩
    simp only [String.toList_append, String.toList_ofList]
    exact start.append zeros
  · dsimp only
    split
    · have closed := (unsigned_of_digits nonempty all).append
        (numeric_of_digits fun c => isDigit_of_mem_zeros (n := magnitude.toNat + 1 - digits.length))
      rw [String.toList_append, String.toList_ofList]
      exact closed.append (numeric_of_all (by decide) (by decide))
    · have whole : Unsigned (digits.take (magnitude.toNat + 1)) := by
        apply unsigned_of_digits
        · simpa using nonempty
        · exact fun c member => all c (List.mem_of_mem_take member)
      have point : Numeric ".".toList := numeric_of_all (by decide) (by decide)
      simp only [String.toList_append, String.toList_ofList]
      exact (whole.append point).append
        (numeric_of_digits fun c member => all c (List.mem_of_mem_drop member))

theorem unsigned_scientific {digits : List Char} (nonempty : digits ≠ [])
    (all : ∀ c ∈ digits, c.isDigit = true) (magnitude : Int) :
    Unsigned (NumberLayout.scientific digits magnitude).toList := by
  have first : Unsigned (digits.take 1) := by
    apply unsigned_of_digits
    · simpa using nonempty
    · exact fun c member => all c (List.mem_of_mem_take member)
  have fraction : Numeric (if (digits.drop 1).isEmpty then "" else
      "." ++ String.ofList (digits.drop 1)).toList := by
    split
    · exact ⟨rfl, by simp⟩
    · have point : Numeric ".".toList := numeric_of_all (by decide) (by decide)
      simp only [String.toList_append, String.toList_ofList]
      exact point.append (numeric_of_digits fun c member => all c (List.mem_of_mem_drop member))
  have exponent : Numeric ((if magnitude < 0 then "e-" else "e+").toList
      ++ decimalDigits magnitude.natAbs) := by
    have power := unsigned_decimalDigits magnitude.natAbs
    split
    · have mark : Numeric ['e'] := numeric_of_all (by decide) (by decide)
      exact mark.append power.minus
    · exact (numeric_of_all (by decide) (by decide)).append power.toNumeric
  unfold NumberLayout.scientific decimalText
  simp only [String.toList_append, String.toList_ofList]
  rw [List.append_assoc]
  exact (first.append fraction).append exponent

/-- A number is printed without a sign, or with a minus sign before that. -/
inductive Sql.Signed : List Char → Prop where
  | plain {text : List Char} (number : Unsigned text) : Signed text
  | minus {text : List Char} (number : Unsigned text) : Signed ('-' :: text)

theorem signed_integerText (i : Int) : Signed (integerText i).toList := by
  unfold integerText decimalText
  split
  · simp only [String.toList_append, String.toList_ofList]
    exact .minus (unsigned_decimalDigits _)
  · rw [String.toList_ofList]
    exact .plain (unsigned_decimalDigits _)

theorem signed_finiteText (x : Finite64) : Signed (Json.numberLayout.finiteText x).toList := by
  let shortest := x.shortest Json.numberLayout.tie
  have nonempty := decimalDigits_ne_nil shortest.coefficient
  have digits : ∀ c ∈ decimalDigits shortest.coefficient, c.isDigit = true :=
    fun _ => isDigit_of_mem_decimalDigits
  have body : Unsigned (if Json.numberLayout.isPositional shortest.magnitude then
      Json.numberLayout.positional (decimalDigits shortest.coefficient) shortest.magnitude
      else NumberLayout.scientific (decimalDigits shortest.coefficient) shortest.magnitude).toList := by
    split
    · exact unsigned_positional nonempty digits _
    · exact unsigned_scientific nonempty digits _
  unfold NumberLayout.finiteText
  rw [String.toList_append]
  split
  · exact .minus body
  · exact .plain body

theorem signed_numberText (n : Json.Number) : Signed n.text.toList := by
  cases n with
  | integer i => exact signed_integerText i
  | fraction x => exact signed_finiteText x

theorem Sql.Signed.numeric {text : List Char} (number : Signed text) : Numeric text := by
  cases number with
  | plain number => exact number.toNumeric
  | minus number => exact number.minus

theorem isCalm_numberText (n : Json.Number) : isCalm n.text.toList = true :=
  (signed_numberText n).numeric.calm

end Tenancy
