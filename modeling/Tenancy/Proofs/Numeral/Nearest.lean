import Tenancy.Numeral.Shortest

/-! The binary number nearest to a quotient. Each finite number is nearest to the quotients of an interval around
it, whose ends count when its significand is even, and no other number is nearer to them. -/
namespace Tenancy

open scoped Powers

namespace Binary64

variable {numerator denominator result scale : Nat}

/-- Half a step at most separates a quotient from what it is rounded to, and exactly half a step only if that is
even. -/
structure IsRounded (numerator denominator result : Nat) : Prop where
  lower : 2 * (result * denominator) ≤ 2 * numerator + denominator
  upper : 2 * numerator ≤ 2 * (result * denominator) + denominator
  even : 2 * (result * denominator) = 2 * numerator + denominator ∨
    2 * numerator = 2 * (result * denominator) + denominator → result % 2 = 0

theorem isRounded_roundHalfEven (positive : 0 < denominator) (numerator : Nat) :
    IsRounded numerator denominator (roundHalfEven numerator denominator) := by
  have parts := Nat.div_add_mod' numerator denominator
  have small := Nat.mod_lt numerator positive
  have next : (numerator / denominator + 1) * denominator = numerator / denominator * denominator + denominator :=
    Nat.succ_mul _ _
  rw [roundHalfEven]
  split
  · constructor <;> omega
  · split
    · constructor <;> omega
    · obtain even | odd := Nat.mod_two_eq_zero_or_one (numerator / denominator)
      · rw [even, Nat.add_zero]
        constructor <;> omega
      · rw [odd]
        constructor <;> omega

theorem IsRounded.le {first second : Nat} (rounded : IsRounded numerator denominator first)
    (rounded' : IsRounded numerator denominator second) (positive : 0 < denominator) : first ≤ second := by
  apply Nat.le_of_not_lt
  intro greater
  have lower := rounded.lower
  have upper := rounded'.upper
  have next : (second + 1) * denominator = second * denominator + denominator := Nat.succ_mul _ _
  obtain rfl | far : first = second + 1 ∨ second + 2 ≤ first := by omega
  · -- Both are half a step away, and only one of two neighbours is even.
    have even := rounded.even
    have even' := rounded'.even
    omega
  · have grows := Nat.mul_le_mul_right denominator far
    have next' : (second + 2) * denominator = (second + 1) * denominator + denominator := Nat.succ_mul _ _
    omega

theorem roundHalfEven_eq_iff (positive : 0 < denominator) :
    roundHalfEven numerator denominator = result ↔ IsRounded numerator denominator result := by
  have rounded := isRounded_roundHalfEven positive numerator
  constructor
  · rintro rfl
    exact rounded
  · intro rounded'
    exact Nat.le_antisymm (rounded.le rounded' positive) (rounded'.le rounded positive)

/-- The least scale at which a quotient has no more than 53 bits. -/
theorem scale_eq_iff (positive : 0 < denominator) :
    (numerator / denominator).log2 - 52 = scale ↔ numerator < 2 ^ (53 : Nat) * (denominator * 2 ^ scale) ∧
      (scale = 0 ∨ 2 ^ (52 : Nat) * (denominator * 2 ^ scale) ≤ numerator) := by
  have bits (n : Nat) : 2 ^ (n + scale) * denominator = 2 ^ n * (denominator * 2 ^ scale) := by
    rw [Nat.pow_add, Nat.mul_assoc, Nat.mul_comm (2 ^ scale)]
  rw [← bits, ← bits, ← Nat.div_lt_iff_lt_mul positive, ← Nat.le_div_iff_mul_le positive]
  obtain zero | large := Nat.eq_zero_or_pos (numerator / denominator)
  · have none : Nat.log2 0 = 0 := by decide
    have upper := Nat.two_pow_pos (53 + scale)
    have lower := Nat.two_pow_pos (52 + scale)
    rw [zero]
    omega
  · have nonzero : numerator / denominator ≠ 0 := Nat.ne_of_gt large
    rw [← Nat.log2_lt nonzero, ← Nat.le_log2 nonzero]
    omega

end Binary64

namespace Finite64

variable {x : Finite64} {numerator denominator : Nat}

theorem one_pos : 0 < one := by
  rw [one]
  apply Nat.pow_pos
  decide

theorem within_iff {low high : Nat} :
    x.within low high = true ↔ low < high ∨ low = high ∧ x.significand % 2 = 0 := by
  rw [within]
  split <;> rw [decide_eq_true_eq] <;> omega

theorem le_of_within {low high : Nat} (within : x.within low high = true) : low ≤ high := by
  obtain less | ⟨same, -⟩ := within_iff.mp within
  · exact Nat.le_of_lt less
  · exact Nat.le_of_eq same

theorem within_iff_of_even (even : x.significand % 2 = 0) {low high : Nat} : x.within low high = true ↔ low ≤ high := by
  rw [within, if_pos even, decide_eq_true_eq]

theorem even_of_least (least : x.significand = 2 ^ (52 : Nat)) : x.significand % 2 = 0 := by
  rw [least]
  decide

/-- A quotient between the ends of the interval that rounds to the number. -/
structure Attracts (x : Finite64) (numerator denominator : Nat) : Prop where
  lower : x.within (x.lowerEnd * denominator) (4 * one * numerator) = true
  upper : x.within (4 * one * numerator) (x.upperEnd * denominator) = true

/-- How far the interval reaches down, in quarters of a step of the number. -/
def lowerGap (x : Finite64) : Nat := if x.significand = 2 ^ (52 : Nat) ∧ 0 < x.scale then 1 else 2

theorem lowerGap_le (x : Finite64) : x.lowerGap ≤ 2 := by
  rw [lowerGap]
  split <;> decide

theorem quarters_mul (x : Finite64) (n : Nat) : x.quarters * n = 4 * (x.significand * (n * 2 ^ x.scale)) := by
  rw [quarters, units]
  ac_rfl

theorem lowerEnd_mul (x : Finite64) (n : Nat) :
    x.lowerEnd * n = 4 * (x.significand * (n * 2 ^ x.scale)) - x.lowerGap * (n * 2 ^ x.scale) := by
  have gap : x.lowerEnd = x.quarters - x.lowerGap * 2 ^ x.scale := by
    rw [lowerEnd, lowerGap]
    split
    · rw [Nat.one_mul]
    · rfl
  rw [gap, Nat.sub_mul, quarters_mul, Nat.mul_assoc x.lowerGap, Nat.mul_comm (2 ^ x.scale)]

theorem upperEnd_mul (x : Finite64) (n : Nat) :
    x.upperEnd * n = 4 * (x.significand * (n * 2 ^ x.scale)) + 2 * (n * 2 ^ x.scale) := by
  rw [upperEnd, Nat.add_mul, quarters_mul, Nat.mul_assoc 2, Nat.mul_comm (2 ^ x.scale)]

/-- The interval in steps of the number over the denominator. -/
theorem attracts_iff : x.Attracts numerator denominator ↔
    x.within (4 * (x.significand * (denominator * 2 ^ x.scale)))
        (4 * (numerator * one) + x.lowerGap * (denominator * 2 ^ x.scale)) = true ∧
      x.within (4 * (numerator * one))
        (4 * (x.significand * (denominator * 2 ^ x.scale)) + 2 * (denominator * 2 ^ x.scale)) = true := by
  have value : 4 * one * numerator = 4 * (numerator * one) := by
    rw [Nat.mul_assoc, Nat.mul_comm one]
  have reach : x.significand = 0 ∨
      x.lowerGap * (denominator * 2 ^ x.scale) ≤ 4 * (x.significand * (denominator * 2 ^ x.scale)) := by
    obtain zero | positive := Nat.eq_zero_or_pos x.significand
    · exact .inl zero
    · have gap := Nat.mul_le_mul_right (denominator * 2 ^ x.scale) x.lowerGap_le
      have step := Nat.le_mul_of_pos_left (denominator * 2 ^ x.scale) positive
      exact .inr (by omega)
  have lower : x.within (x.lowerEnd * denominator) (4 * one * numerator) = true ↔
      x.within (4 * (x.significand * (denominator * 2 ^ x.scale)))
        (4 * (numerator * one) + x.lowerGap * (denominator * 2 ^ x.scale)) = true := by
    rw [within_iff, within_iff, lowerEnd_mul, value]
    obtain zero | reach := reach
    · rw [zero, Nat.zero_mul]
      omega
    · omega
  constructor
  · rintro ⟨low, high⟩
    exact ⟨lower.mp low, by rwa [value, upperEnd_mul] at high⟩
  · rintro ⟨low, high⟩
    exact ⟨lower.mpr low, by rwa [value, upperEnd_mul]⟩

end Finite64

namespace Binary64

variable {x : Finite64} {negative : Bool} {numerator denominator : Nat}

theorem ofParts_eq_finite_iff {significand scale : Nat} : ofParts negative significand scale = .finite x ↔
    x.negative = negative ∧ x.significand = significand ∧ x.scale = scale := by
  rw [ofParts]
  split
  · rename_i parts
    obtain ⟨sign, m, s, _, _, _⟩ := x
    simp [eq_comm]
  · rename_i parts
    refine ⟨nofun, ?_⟩
    rintro ⟨rfl, rfl, rfl⟩
    exact absurd ⟨x.significand_lt, x.normal, x.scale_le⟩ parts

/-- The steps of rounding: a scale at which the quotient has 53 bits, and a significand that may carry. -/
theorem nearest_eq {scale significand : Nat} (positive : 0 < denominator)
    (below : numerator * Finite64.one < 2 ^ (53 : Nat) * (denominator * 2 ^ scale))
    (above : scale = 0 ∨ 2 ^ (52 : Nat) * (denominator * 2 ^ scale) ≤ numerator * Finite64.one)
    (rounded : IsRounded (numerator * Finite64.one) (denominator * 2 ^ scale) significand) :
    nearest negative numerator denominator =
      if significand = 2 ^ (53 : Nat) then ofParts negative (2 ^ (52 : Nat)) (scale + 1)
      else ofParts negative significand scale := by
  have step : 0 < denominator * 2 ^ scale := Nat.mul_pos positive (Nat.two_pow_pos scale)
  rw [nearest, (scale_eq_iff positive).mpr ⟨below, above⟩, (roundHalfEven_eq_iff step).mpr rounded]

/-- Every quotient is rounded at some scale. -/
theorem exists_nearest_eq (positive : 0 < denominator) (negative : Bool) (numerator : Nat) : ∃ scale significand,
    numerator * Finite64.one < 2 ^ (53 : Nat) * (denominator * 2 ^ scale) ∧
      (scale = 0 ∨ 2 ^ (52 : Nat) * (denominator * 2 ^ scale) ≤ numerator * Finite64.one) ∧
      IsRounded (numerator * Finite64.one) (denominator * 2 ^ scale) significand ∧
      nearest negative numerator denominator =
        if significand = 2 ^ (53 : Nat) then ofParts negative (2 ^ (52 : Nat)) (scale + 1)
        else ofParts negative significand scale := by
  obtain ⟨below, above⟩ := (scale_eq_iff positive).mp (Eq.refl ((numerator * Finite64.one / denominator).log2 - 52))
  generalize (numerator * Finite64.one / denominator).log2 - 52 = scale at below above
  have step : 0 < denominator * 2 ^ scale := Nat.mul_pos positive (Nat.two_pow_pos scale)
  have rounded := isRounded_roundHalfEven step (numerator * Finite64.one)
  exact ⟨scale, _, below, above, rounded, nearest_eq positive below above rounded⟩

theorem attracts_of_nearest (positive : 0 < denominator) (found : nearest negative numerator denominator = .finite x) :
    x.negative = negative ∧ x.Attracts numerator denominator := by
  obtain ⟨scale, significand, below, above, ⟨lower, upper, even⟩, same⟩ := exists_nearest_eq positive negative numerator
  have step : 0 < denominator * 2 ^ scale := Nat.mul_pos positive (Nat.two_pow_pos scale)
  rw [same] at found
  rw [Finite64.attracts_iff, Finite64.lowerGap]
  split at found
  · -- The carry leaves the least significand of the next scale, whose interval reaches down by half a step less.
    rename_i carried
    obtain ⟨sign, least, next⟩ := ofParts_eq_finite_iff.mp found
    have double : denominator * 2 ^ (scale + 1) = 2 * (denominator * 2 ^ scale) := by
      rw [Nat.pow_succ, ← Nat.mul_assoc, Nat.mul_comm]
    have even : x.significand % 2 = 0 := Finite64.even_of_least least
    rw [Finite64.within_iff_of_even even, Finite64.within_iff_of_even even, least, next, double,
      if_pos ⟨rfl, Nat.succ_pos scale⟩]
    rw [carried] at lower upper
    clear even
    exact ⟨sign, by omega, by omega⟩
  · obtain ⟨sign, rfl, rfl⟩ := ofParts_eq_finite_iff.mp found
    split
    · rename_i least
      have even : x.significand % 2 = 0 := Finite64.even_of_least least.1
      have above : 2 ^ (52 : Nat) * (denominator * 2 ^ x.scale) ≤ numerator * Finite64.one :=
        above.resolve_left (Nat.ne_of_gt least.2)
      rw [Finite64.within_iff_of_even even, Finite64.within_iff_of_even even]
      rw [least.1] at lower upper ⊢
      clear even
      exact ⟨sign, by omega, by omega⟩
    · rw [Finite64.within_iff, Finite64.within_iff]
      exact ⟨sign, by omega, by omega⟩

theorem nearest_of_attracts (positive : 0 < denominator) (attracts : x.Attracts numerator denominator) :
    nearest x.negative numerator denominator = .finite x := by
  have step : 0 < denominator * 2 ^ x.scale := Nat.mul_pos positive (Nat.two_pow_pos x.scale)
  obtain ⟨lower, upper⟩ := Finite64.attracts_iff.mp attracts
  by_cases below : x.significand = 2 ^ (52 : Nat) ∧ 0 < x.scale ∧
      numerator * Finite64.one < 2 ^ (52 : Nat) * (denominator * 2 ^ x.scale)
  · -- Just below the least significand of a scale the quotient is rounded at the scale before, with a carry.
    obtain ⟨least, shifted, below⟩ := below
    obtain ⟨scale, same⟩ := Nat.exists_eq_succ_of_ne_zero (Nat.ne_of_gt shifted)
    have double : denominator * 2 ^ x.scale = 2 * (denominator * 2 ^ scale) := by
      rw [same, Nat.pow_succ, ← Nat.mul_assoc, Nat.mul_comm]
    have even : x.significand % 2 = 0 := Finite64.even_of_least least
    rw [Finite64.within_iff_of_even even, Finite64.lowerGap, if_pos ⟨least, shifted⟩, least, double] at lower
    rw [double] at below
    have rounded : IsRounded (numerator * Finite64.one) (denominator * 2 ^ scale) (2 ^ (53 : Nat)) := by
      refine ⟨by omega, by omega, fun _ => by decide⟩
    rw [nearest_eq positive (by omega) (by omega) rounded, if_pos rfl]
    exact ofParts_eq_finite_iff.mpr ⟨rfl, least, same⟩
  · have rounded : IsRounded (numerator * Finite64.one) (denominator * 2 ^ x.scale) x.significand := by
      rw [Finite64.lowerGap] at lower
      split at lower
      · rename_i least
        have above : 2 ^ (52 : Nat) * (denominator * 2 ^ x.scale) ≤ numerator * Finite64.one :=
          Nat.le_of_not_lt fun less => below ⟨least.1, least.2, less⟩
        have even : x.significand % 2 = 0 := Finite64.even_of_least least.1
        rw [Finite64.within_iff_of_even even] at upper
        refine ⟨?_, by omega, fun _ => even⟩
        rw [least.1]
        omega
      · rw [Finite64.within_iff] at lower upper
        exact ⟨by omega, by omega, by omega⟩
    have small : x.significand * (denominator * 2 ^ x.scale) ≤ (2 ^ (53 : Nat) - 1) * (denominator * 2 ^ x.scale) :=
      Nat.mul_le_mul_right _ (Nat.le_sub_one_of_lt x.significand_lt)
    have less := rounded.upper
    have more := rounded.lower
    have above : x.scale = 0 ∨ 2 ^ (52 : Nat) * (denominator * 2 ^ x.scale) ≤ numerator * Finite64.one := by
      obtain zero | positive := Nat.eq_zero_or_pos x.scale
      · exact .inl zero
      · obtain least | larger := Nat.eq_or_lt_of_le (x.normal.resolve_left (Nat.ne_of_gt positive))
        · exact .inr (Nat.le_of_not_lt fun less => below ⟨least.symm, positive, less⟩)
        · have large :
              (2 ^ (52 : Nat) + 1) * (denominator * 2 ^ x.scale) ≤ x.significand * (denominator * 2 ^ x.scale) :=
            Nat.mul_le_mul_right _ larger
          exact .inr (by omega)
    rw [nearest_eq positive (by omega) above rounded, if_neg (Nat.ne_of_lt x.significand_lt)]
    exact ofParts_eq_finite_iff.mpr ⟨rfl, rfl, rfl⟩

theorem exists_ofParts_eq_finite {significand scale : Nat} (small : significand < 2 ^ (53 : Nat))
    (normal : scale = 0 ∨ 2 ^ (52 : Nat) ≤ significand) (le : scale ≤ 2045) :
    ∃ x, ofParts negative significand scale = .finite x := by
  rw [ofParts, dif_pos ⟨small, normal, le⟩]
  exact ⟨_, rfl⟩

/-- Quotients that are not too great have a nearest number. -/
theorem exists_nearest_eq_finite {bits : Nat} (fits : bits ≤ 1023) (positive : 0 < denominator)
    (bound : numerator < 2 ^ bits * denominator) : ∃ x, nearest negative numerator denominator = .finite x := by
  obtain ⟨scale, significand, below, above, rounded, same⟩ := exists_nearest_eq positive negative numerator
  have step : 0 < denominator * 2 ^ scale := Nat.mul_pos positive (Nat.two_pow_pos scale)
  have small : significand ≤ 2 ^ (53 : Nat) := by
    have lower := rounded.lower
    apply Nat.le_of_not_lt
    intro larger
    have large := Nat.mul_le_mul_right (denominator * 2 ^ scale) larger
    omega
  have normal : scale = 0 ∨ 2 ^ (52 : Nat) ≤ significand := by
    refine above.imp_right fun above => Nat.le_of_not_lt fun smaller => ?_
    have upper := rounded.upper
    have small := Nat.mul_le_mul_right (denominator * 2 ^ scale) (Nat.le_sub_one_of_lt smaller)
    omega
  have le : scale + 1 ≤ 2045 := by
    obtain rfl | above := above
    · decide
    · have less : 2 ^ (52 + scale) * denominator < 2 ^ (bits + 1074) * denominator := by
        calc 2 ^ (52 + scale) * denominator
          _ = 2 ^ (52 : Nat) * (denominator * 2 ^ scale) := by rw [Nat.pow_add, Nat.mul_assoc, Nat.mul_comm denominator]
          _ ≤ numerator * Finite64.one := above
          _ < 2 ^ bits * denominator * Finite64.one := Nat.mul_lt_mul_of_pos_right bound Finite64.one_pos
          _ = 2 ^ (bits + 1074) * denominator := by rw [Finite64.one, Nat.mul_right_comm, ← Nat.pow_add]
      have powers := (Nat.pow_lt_pow_iff_right (by decide)).mp (Nat.lt_of_mul_lt_mul_right less)
      omega
  rw [same]
  split
  · exact exists_ofParts_eq_finite (by decide) (.inr (Nat.le_refl _)) le
  · rename_i kept
    exact exists_ofParts_eq_finite (Nat.lt_of_le_of_ne small kept) normal (Nat.le_of_succ_le le)

/-- Rounding a quotient gives just the number whose interval the quotient is in. -/
theorem nearest_eq_finite_iff (positive : 0 < denominator) : nearest negative numerator denominator = .finite x ↔
    x.negative = negative ∧ x.Attracts numerator denominator := by
  constructor
  · exact attracts_of_nearest positive
  · rintro ⟨rfl, attracts⟩
    exact nearest_of_attracts positive attracts

end Binary64

namespace Finite64

variable {x y : Finite64} {numerator denominator : Nat}

/-! The steps between numbers. -/

theorem exists_units_eq_mul (coarse : x.scale ≤ y.scale) : ∃ steps, y.units = steps * 2 ^ x.scale :=
  ⟨y.significand * 2 ^ (y.scale - x.scale), by rw [units, Nat.mul_assoc, ← Nat.pow_add, Nat.sub_add_cancel coarse]⟩

/-- The numbers of a finer scale end half a step before those of a scale begin. -/
theorem two_mul_units_le (fine : y.scale < x.scale) :
    2 * y.units + 2 ^ x.scale ≤ 2 * (2 ^ (52 : Nat) * 2 ^ x.scale) := by
  have most := Nat.mul_le_mul_right (2 ^ y.scale) (Nat.le_sub_one_of_lt y.significand_lt)
  have double : 2 ^ (y.scale + 1) ≤ 2 ^ x.scale := Nat.pow_le_pow_right (by decide) fine
  rw [Nat.pow_succ] at double
  rw [units]
  omega

/-- A greater number is at least a step away. -/
theorem units_add_step_le (less : x.units < y.units) : x.units + 2 ^ x.scale ≤ y.units := by
  obtain fine | coarse := Nat.lt_or_ge y.scale x.scale
  · have normal := x.normal.resolve_left (Nat.ne_of_gt (Nat.zero_lt_of_lt fine))
    have least : 2 ^ (52 : Nat) * 2 ^ x.scale ≤ x.units := Nat.mul_le_mul_right _ normal
    have below := two_mul_units_le fine
    omega
  · obtain ⟨steps, same⟩ := exists_units_eq_mul coarse
    rw [same, units] at less
    rw [same, units, ← Nat.succ_mul]
    exact Nat.mul_le_mul_right _ (Nat.lt_of_mul_lt_mul_right less)

/-- A smaller number is at least a step away, or half a step below the least significand of a scale. -/
theorem two_mul_units_add_gap_le (less : y.units < x.units) :
    2 * y.units + x.lowerGap * 2 ^ x.scale ≤ 2 * x.units := by
  obtain fine | coarse := Nat.lt_or_ge y.scale x.scale
  · have shifted := Nat.zero_lt_of_lt fine
    have below := two_mul_units_le fine
    rw [lowerGap]
    split
    · rename_i least
      have value : x.units = 2 ^ (52 : Nat) * 2 ^ x.scale := by rw [units, least.1]
      rw [value, Nat.one_mul]
      exact below
    · rename_i larger
      have normal := Nat.lt_of_le_of_ne (x.normal.resolve_left (Nat.ne_of_gt shifted)) fun least =>
        larger ⟨least.symm, shifted⟩
      have least : (2 ^ (52 : Nat) + 1) * 2 ^ x.scale ≤ x.units := Nat.mul_le_mul_right _ normal
      omega
  · obtain ⟨steps, same⟩ := exists_units_eq_mul coarse
    have gap := Nat.mul_le_mul_right (2 ^ x.scale) x.lowerGap_le
    rw [same, units] at less
    have next := Nat.mul_le_mul_right (2 ^ x.scale) (Nat.succ_le_of_lt (Nat.lt_of_mul_lt_mul_right less))
    rw [Nat.succ_mul] at next
    rw [same, units]
    omega

/-- No number is nearer to a quotient than the one that attracts it. -/
theorem Attracts.le_distance (attracts : x.Attracts numerator denominator) (y : Finite64) :
    ((x.units * denominator : Nat) - (numerator * one : Nat) : Int).natAbs ≤
      ((y.units * denominator : Nat) - (numerator * one : Nat) : Int).natAbs := by
  obtain ⟨lower, upper⟩ := attracts_iff.mp attracts
  have lower := le_of_within lower
  have upper := le_of_within upper
  have value : x.significand * (denominator * 2 ^ x.scale) = x.units * denominator := by
    rw [units, Nat.mul_assoc, Nat.mul_comm denominator]
  rw [value] at lower upper
  generalize numerator * one = target at *
  obtain less | same | greater := Nat.lt_trichotomy y.units x.units
  · have apart := Nat.mul_le_mul_right denominator (two_mul_units_add_gap_le less)
    rw [Nat.add_mul, Nat.mul_assoc 2, Nat.mul_assoc x.lowerGap, Nat.mul_comm (2 ^ x.scale), Nat.mul_assoc 2] at apart
    omega
  · exact Nat.le_of_eq (by rw [same])
  · have apart := Nat.mul_le_mul_right denominator (units_add_step_le greater)
    rw [Nat.add_mul, Nat.mul_comm (2 ^ x.scale)] at apart
    omega

end Finite64
end Tenancy
