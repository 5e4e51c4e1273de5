import Tenancy.Numeral.Reading
import Tenancy.Proofs.Numeral.Shortest

/-! The canonical texts of numbers. The digits of a shortest decimal have no zero at either end, so that neither
form of the layout writes a needless one. -/
namespace Tenancy

open scoped Powers

namespace Numeral

/-- Digits with no needless zero before them. -/
structure IsWhole (digits : List Char) : Prop extends IsDigits digits where
  first : digits.head? = some '0' → digits = ['0']

/-- Digits with no needless zero after them, perhaps none. -/
structure IsFraction (digits : List Char) : Prop where
  digit : ∀ c ∈ digits, c.isDigit = true
  last : digits.getLast? ≠ some '0'

def minus (negative : Bool) : List Char := if negative then ['-'] else []

/-- A fraction that is not empty stands after a point. -/
def pointed (fraction : List Char) : List Char := if fraction = [] then [] else '.' :: fraction

def exponent (negative : Bool) (digits : List Char) : List Char := 'e' :: (if negative then '-' else '+') :: digits

/-- The canonical numerals: zero, positional numerals and numerals with an exponent. -/
inductive Canonical : List Char → Prop
  | zero : Canonical ['0']
  | positional {whole fraction : List Char} (negative : Bool) : IsWhole whole → IsFraction fraction →
      (whole = ['0'] → fraction ≠ []) → Canonical (minus negative ++ (whole ++ pointed fraction))
  | scientific {first : Char} {fraction digits : List Char} (negative small : Bool) : first.isDigit = true →
      first ≠ '0' → IsFraction fraction → IsWhole digits →
      Canonical (minus negative ++ (first :: (pointed fraction ++ exponent small digits)))

/-- A canonical numeral begins with a digit or a minus sign. -/
theorem Canonical.first {text : List Char} (canonical : Canonical text) :
    ∃ c, text.head? = some c ∧ (c = '-' ∨ c.isDigit = true) := by
  cases canonical with
  | zero => exact ⟨'0', rfl, .inr (by decide)⟩
  | @positional whole fraction negative digits =>
    cases negative with
    | true => exact ⟨'-', rfl, .inl rfl⟩
    | false =>
      cases whole with
      | nil => exact absurd rfl digits.nonempty
      | cons c rest => exact ⟨c, rfl, .inr (digits.digit c List.mem_cons_self)⟩
  | scientific negative _ digit =>
    cases negative with
    | true => exact ⟨'-', rfl, .inl rfl⟩
    | false => exact ⟨_, rfl, .inr digit⟩

end Numeral

/-! The digits of naturals. -/

section Digits

variable {n : Nat}

theorem ofDigitChars_decimalDigits (n : Nat) : Nat.ofDigitChars 10 (decimalDigits n) 0 = n :=
  Nat.ofDigitChars_toDigits (by decide) (by decide)

theorem head?_decimalDigits (positive : 0 < n) : (decimalDigits n).head? ≠ some '0' := by
  have value := ofDigitChars_decimalDigits n
  have lower (width : Nat) (shorter : width < (decimalDigits n).length) : 10 ^ width ≤ n :=
    pow_le_of_lt_length positive shorter
  have digit := (isDigits_decimalDigits n).digit
  cases same : decimalDigits n with
  | nil => nofun
  | cons c rest =>
    rw [same] at value lower digit
    rintro first
    obtain rfl : c = '0' := Option.some.inj first
    -- Behind a zero there is a digit too few for the number.
    have less := ofDigitChars_lt (List.forall_mem_cons.mp digit).2 0
    have shifted : Nat.ofDigitChars 10 rest 0 = n := by rw [← value, Nat.ofDigitChars_cons]; rfl
    rw [shifted, Nat.mul_one] at less
    exact absurd (lower rest.length (Nat.lt_succ_self _)) (Nat.not_le_of_lt less)

theorem getLast?_decimalDigits (trimmed : n % 10 ≠ 0) : (decimalDigits n).getLast? ≠ some '0' := by
  rw [decimalDigits, Nat.toDigits_eq_if (by decide)]
  split
  · rename_i small
    rw [Nat.mod_eq_of_lt small] at trimmed
    simpa using trimmed
  · simpa using trimmed

theorem isWhole_decimalDigits (n : Nat) : Numeral.IsWhole (decimalDigits n) where
  toIsDigits := isDigits_decimalDigits n
  first := by
    obtain rfl | positive := Nat.eq_zero_or_pos n
    · exact fun _ => rfl
    · exact fun first => absurd first (head?_decimalDigits positive)

theorem isFraction_decimalDigits (trimmed : n % 10 ≠ 0) : Numeral.IsFraction (decimalDigits n) :=
  ⟨(isDigits_decimalDigits n).digit, getLast?_decimalDigits trimmed⟩

end Digits

namespace Numeral

variable {digits : List Char} {magnitude : Int}

/-! Digits cut where the first has a given magnitude. -/

def wholePart (digits : List Char) (magnitude : Int) : List Char :=
  if magnitude < 0 then ['0']
  else digits.take (magnitude.toNat + 1) ++ List.replicate (magnitude.toNat + 1 - digits.length) '0'

def fractionPart (digits : List Char) (magnitude : Int) : List Char :=
  if magnitude < 0 then List.replicate (magnitude.natAbs - 1) '0' ++ digits else digits.drop (magnitude.toNat + 1)

/-- Digits of an integer, with zeros up to the point. -/
theorem parts_of_zeros (length : 0 < digits.length) (zeros : Nat) :
    wholePart digits (zeros + (digits.length - 1) : Nat) = digits ++ List.replicate zeros '0' ∧
      fractionPart digits (zeros + (digits.length - 1) : Nat) = [] := by
  have positive : ¬ ((zeros + (digits.length - 1) : Nat) : Int) < 0 := by omega
  have width : zeros + (digits.length - 1) + 1 = digits.length + zeros := by omega
  rw [wholePart, fractionPart, if_neg positive, if_neg positive, Int.toNat_natCast, width, Nat.add_sub_cancel_left,
    List.take_of_length_le (Nat.le_add_right _ _), List.drop_eq_nil_of_le (Nat.le_add_right _ _)]
  exact ⟨rfl, rfl⟩

theorem toList_positional {layout : NumberLayout} (suffix : layout.wholeSuffix = "") (nonempty : digits ≠ []) :
    (layout.positional digits magnitude).toList =
      wholePart digits magnitude ++ pointed (fractionPart digits magnitude) := by
  rw [NumberLayout.positional, wholePart, fractionPart, pointed]
  split
  · rename_i small
    rw [if_neg (List.append_ne_nil_of_right_ne_nil _ nonempty)]
    simp
  · dsimp only
    split
    · rename_i short
      rw [List.drop_eq_nil_of_le short, if_pos rfl, List.take_of_length_le short, suffix]
      simp
    · rename_i long
      have longer := Nat.lt_of_not_le long
      rw [if_neg (by simpa using longer), Nat.sub_eq_zero_of_le (Nat.le_of_lt longer)]
      simp

theorem toList_scientific (digits : List Char) (magnitude : Int) : (NumberLayout.scientific digits magnitude).toList =
    digits.take 1 ++ (pointed (digits.drop 1) ++
      exponent (decide (magnitude < 0)) (decimalDigits magnitude.natAbs)) := by
  rw [NumberLayout.scientific, pointed, exponent, decimalText]
  simp only [List.isEmpty_iff, decide_eq_true_eq, String.toList_append, String.toList_ofList, List.append_assoc]
  congr 1
  split <;> split <;> simp

theorem isWhole_wholePart (whole : IsWhole digits) (first : digits.head? ≠ some '0') (magnitude : Int) :
    IsWhole (wholePart digits magnitude) := by
  rw [wholePart]
  split
  · exact ⟨⟨List.cons_ne_nil _ _, List.forall_mem_singleton.mpr (by decide)⟩, fun _ => rfl⟩
  · cases digits with
    | nil => exact absurd rfl whole.nonempty
    | cons c rest =>
      have taken : ∀ d ∈ (c :: rest).take (magnitude.toNat + 1), d.isDigit = true :=
        fun d member => whole.digit d (List.mem_of_mem_take member)
      refine ⟨⟨List.cons_ne_nil _ _, ?_⟩, fun zero => absurd zero first⟩
      exact List.forall_mem_append.mpr ⟨taken, fun _ => isDigit_of_mem_zeros⟩

theorem isFraction_fractionPart (fraction : IsFraction digits) (nonempty : digits ≠ []) (magnitude : Int) :
    IsFraction (fractionPart digits magnitude) := by
  rw [fractionPart]
  split
  · refine ⟨List.forall_mem_append.mpr ⟨fun _ => isDigit_of_mem_zeros, fraction.digit⟩, ?_⟩
    rw [List.getLast?_append_of_ne_nil _ nonempty]
    exact fraction.last
  · refine ⟨fun c member => fraction.digit c (List.mem_of_mem_drop member), ?_⟩
    rw [List.getLast?_drop]
    split
    · nofun
    · exact fraction.last

/-- A number below one is written with a whole part of zero and a fraction. -/
theorem fractionPart_ne_nil (nonempty : digits ≠ []) (first : digits.head? ≠ some '0')
    (zero : wholePart digits magnitude = ['0']) : fractionPart digits magnitude ≠ [] := by
  rw [wholePart] at zero
  rw [fractionPart]
  split at zero
  · rename_i small
    rw [if_pos small]
    exact List.append_ne_nil_of_right_ne_nil _ nonempty
  · cases digits with
    | nil => exact absurd rfl nonempty
    | cons c rest => exact absurd (congrArg some (List.cons.inj zero).1) first

end Numeral

namespace Binary64

open Numeral

variable {x : Finite64}

theorem canonicalText_of_isZero (zero : x.isZero = true) : canonicalText (.finite x) = "0" := by
  rw [canonicalText, NumberLayout.text, NumberLayout.finiteText, Finite64.shortest, if_pos zero, zero]
  simp only [Bool.not_true, Bool.or_false, canonicalLayout, Bool.and_false]
  decide

/-- The canonical text of a number that is not zero, in terms of its shortest decimal. -/
theorem toList_canonicalText (nonzero : x.isZero = false) {d : Decimal} (shortest : x.shortest .up = d) :
    (canonicalText (.finite x)).toList = minus x.negative ++
      if -6 ≤ d.magnitude ∧ d.magnitude ≤ 20 then
        wholePart (decimalDigits d.coefficient) d.magnitude ++
          pointed (fractionPart (decimalDigits d.coefficient) d.magnitude)
      else (decimalDigits d.coefficient).take 1 ++ (pointed ((decimalDigits d.coefficient).drop 1) ++
        exponent (decide (d.magnitude < 0)) (decimalDigits d.magnitude.natAbs)) := by
  have nonempty := (isDigits_decimalDigits d.coefficient).nonempty
  have tie : canonicalLayout.tie = .up := rfl
  have sign : (if x.negative && (canonicalLayout.signedZero || !x.isZero) then "-" else "" : String).toList =
      minus x.negative := by
    rw [nonzero, minus]
    cases x.negative <;> rfl
  have positional : canonicalLayout.isPositional d.magnitude = true ↔ -6 ≤ d.magnitude ∧ d.magnitude ≤ 20 := by
    simp [NumberLayout.isPositional, canonicalLayout]
  rw [canonicalText, NumberLayout.text, NumberLayout.finiteText, tie, shortest]
  rw [String.toList_append, sign]
  by_cases within : -6 ≤ d.magnitude ∧ d.magnitude ≤ 20
  · rw [if_pos within, if_pos (positional.mpr within), toList_positional rfl nonempty]
  · rw [if_neg within, if_neg (mt positional.mp within), toList_scientific]

theorem canonical_canonicalText (x : Finite64) : Canonical (canonicalText (.finite x)).toList := by
  cases zero : x.isZero with
  | true =>
    rw [canonicalText_of_isZero zero]
    exact .zero
  | false =>
    rw [toList_canonicalText zero rfl]
    have trimmed := (Finite64.shortest_shortest .up zero).trimmed
    generalize x.shortest .up = d at trimmed ⊢
    have positive : 0 < d.coefficient := Nat.pos_of_ne_zero fun none => trimmed (by rw [none])
    have whole := isWhole_decimalDigits d.coefficient
    have fraction := isFraction_decimalDigits trimmed
    have first := head?_decimalDigits positive
    split
    · exact .positional x.negative (isWhole_wholePart whole first _) (isFraction_fractionPart fraction whole.nonempty _)
        (fractionPart_ne_nil whole.nonempty first)
    · cases digits : decimalDigits d.coefficient with
      | nil => exact absurd digits whole.nonempty
      | cons c rest =>
        rw [digits] at whole fraction first
        refine .scientific x.negative (decide (d.magnitude < 0)) (whole.digit c List.mem_cons_self)
          (fun zero => first (congrArg some zero)) ⟨?_, ?_⟩ (isWhole_decimalDigits d.magnitude.natAbs)
        · exact (List.forall_mem_cons.mp fraction.digit).2
        · cases rest with
          | nil => nofun
          | cons => exact fraction.last

end Binary64
end Tenancy
