import Tenancy.Proofs.Numeral.Nearest
import Tenancy.Proofs.Numeral.Padded

/-! The fewest digits that read back. A decimal reads back as a number when it lies in the interval of the
number, and the search finds one before its tries are used up, for seventeen digits always read back. What it
finds has no zero at the end, for without the zero it would have been found on a coarser grid. -/
namespace Tenancy

open scoped Powers

theorem length_decimalDigits_pos (n : Nat) : 0 < (decimalDigits n).length := Nat.length_toDigits_pos

theorem length_decimalDigits_le_iff {n width : Nat} (positive : 0 < width) :
    (decimalDigits n).length ≤ width ↔ n < 10 ^ width :=
  Nat.length_toDigits_le_iff (by decide) positive

theorem lt_pow_length (n : Nat) : n < 10 ^ (decimalDigits n).length :=
  (length_decimalDigits_le_iff (length_decimalDigits_pos n)).mp (Nat.le_refl _)

theorem pow_le_of_lt_length {n width : Nat} (positive : 0 < n) (shorter : width < (decimalDigits n).length) :
    10 ^ width ≤ n := by
  obtain rfl | wide := Nat.eq_zero_or_pos width
  · exact positive
  · exact Nat.le_of_not_lt fun less => absurd ((length_decimalDigits_le_iff wide).mpr less) (Nat.not_le_of_lt shorter)

namespace Decimal

/-! The value of a decimal as a quotient. -/

def numerator (d : Decimal) : Nat := d.coefficient * 10 ^ d.exponent.toNat

def denominator (d : Decimal) : Nat := 10 ^ (-d.exponent).toNat

theorem denominator_pos (d : Decimal) : 0 < d.denominator := Nat.pow_pos (by decide)

/-- A decimal in the interval of a number. -/
def ReadsAs (d : Decimal) (x : Finite64) : Prop := x.Attracts d.numerator d.denominator

end Decimal

namespace Finite64

variable {x : Finite64} {coefficient : Nat} {power : Int}

theorem within_mul {scale low high : Nat} (positive : 0 < scale) :
    x.within (scale * low) (scale * high) = true ↔ x.within low high = true := by
  rw [within_iff, within_iff, Nat.mul_lt_mul_left positive, Nat.mul_right_inj (Nat.ne_of_gt positive)]

theorem within_of_le_of_le {low low' high high' : Nat} (within : x.within low high = true) (lower : low' ≤ low)
    (higher : high ≤ high') : x.within low' high' = true := by
  rw [within_iff] at within ⊢
  omega

theorem attracts_mul_iff {scale numerator denominator : Nat} (positive : 0 < scale) :
    x.Attracts (scale * numerator) (scale * denominator) ↔ x.Attracts numerator denominator := by
  have value : 4 * one * (scale * numerator) = scale * (4 * one * numerator) := by rw [Nat.mul_left_comm]
  have lower := Nat.mul_left_comm x.lowerEnd scale denominator
  have upper := Nat.mul_left_comm x.upperEnd scale denominator
  constructor
  · rintro ⟨low, high⟩
    rw [value, lower, within_mul positive] at low
    rw [value, upper, within_mul positive] at high
    exact ⟨low, high⟩
  · rintro ⟨low, high⟩
    rw [← within_mul positive, ← value, ← lower] at low
    rw [← within_mul positive, ← value, ← upper] at high
    exact ⟨low, high⟩

end Finite64

namespace Decimal

variable {x : Finite64} {coefficient : Nat} {power : Int}

/-- Ten times a coefficient is the coefficient on the next coarser grid. -/
theorem readsAs_tenfold_iff :
    (Decimal.mk (10 * coefficient) power).ReadsAs x ↔ (Decimal.mk coefficient (power + 1)).ReadsAs x := by
  unfold ReadsAs numerator denominator
  dsimp only
  obtain above | below : 0 ≤ power ∨ power < 0 := Int.lt_or_le power 0 |>.symm
  · have coarser : (power + 1).toNat = power.toNat + 1 := by omega
    have whole : (-(power + 1)).toNat = 0 := by omega
    have whole' : (-power).toNat = 0 := by omega
    rw [coarser, whole, whole', Nat.pow_succ, Nat.mul_comm (10 ^ _) 10, ← Nat.mul_assoc, Nat.mul_comm coefficient]
  · have finer : (-power).toNat = (-(power + 1)).toNat + 1 := by omega
    have fraction : (power + 1).toNat = 0 := by omega
    have fraction' : power.toNat = 0 := by omega
    rw [finer, fraction, fraction', Nat.pow_succ, Nat.mul_comm (10 ^ _) 10, Nat.mul_assoc]
    exact Finite64.attracts_mul_iff (by decide)

end Decimal

namespace Finite64

variable {x : Finite64} {tie : Tie} {coefficient : Nat} {power : Int}

/-! The two neighbours of a number on a grid. -/

/-- The number on a grid of decimals, rounded down. -/
def gridFloor (x : Finite64) (power : Int) : Nat := x.quarters * 10 ^ (-power).toNat / (4 * one * 10 ^ power.toNat)

theorem grid_pos (power : Int) : 0 < 4 * one * 10 ^ power.toNat :=
  Nat.mul_pos (Nat.mul_pos (by decide) one_pos) (Nat.pow_pos (by decide))

theorem gridFloor_le (x : Finite64) (power : Int) :
    x.gridFloor power * (4 * one * 10 ^ power.toNat) ≤ x.quarters * 10 ^ (-power).toNat :=
  Nat.div_mul_le_self _ _

theorem lt_gridFloor (x : Finite64) (power : Int) :
    x.quarters * 10 ^ (-power).toNat < (x.gridFloor power + 1) * (4 * one * 10 ^ power.toNat) :=
  Nat.lt_mul_of_div_lt (Nat.lt_succ_self _) (grid_pos power)

theorem readsAs_iff : (Decimal.mk coefficient power).ReadsAs x ↔
    x.within (x.lowerEnd * 10 ^ (-power).toNat) (coefficient * (4 * one * 10 ^ power.toNat)) = true ∧
      x.within (coefficient * (4 * one * 10 ^ power.toNat)) (x.upperEnd * 10 ^ (-power).toNat) = true := by
  have value := Nat.mul_left_comm coefficient (4 * one) (10 ^ power.toNat)
  rw [value]
  constructor
  · rintro ⟨low, high⟩
    exact ⟨low, high⟩
  · rintro ⟨low, high⟩
    exact ⟨low, high⟩

theorem lowerEnd_le (x : Finite64) : x.lowerEnd ≤ x.quarters := Nat.sub_le _ _

theorem lt_upperEnd (x : Finite64) : x.quarters < x.upperEnd :=
  Nat.lt_add_of_pos_right (Nat.mul_pos (by decide) (Nat.two_pow_pos _))

/-- Up to the number itself only the lower end of the interval matters. -/
theorem readsAs_iff_of_le (below : coefficient ≤ x.gridFloor power) : (Decimal.mk coefficient power).ReadsAs x ↔
    x.within (x.lowerEnd * 10 ^ (-power).toNat) (coefficient * (4 * one * 10 ^ power.toNat)) = true := by
  have up : 0 < 10 ^ (-power).toNat := Nat.pow_pos (by decide)
  have le := Nat.mul_le_mul_right (4 * one * 10 ^ power.toNat) below
  have less := Nat.mul_lt_mul_of_pos_right x.lt_upperEnd up
  have upper : coefficient * (4 * one * 10 ^ power.toNat) < x.upperEnd * 10 ^ (-power).toNat :=
    Nat.lt_of_le_of_lt (Nat.le_trans le (x.gridFloor_le power)) less
  rw [readsAs_iff]
  exact and_iff_left (within_iff.mpr (.inl upper))

/-- Above the number only the upper end matters. -/
theorem readsAs_iff_of_lt (above : x.gridFloor power < coefficient) : (Decimal.mk coefficient power).ReadsAs x ↔
    x.within (coefficient * (4 * one * 10 ^ power.toNat)) (x.upperEnd * 10 ^ (-power).toNat) = true := by
  have ge := Nat.mul_le_mul_right (4 * one * 10 ^ power.toNat) above
  have le := Nat.mul_le_mul_right (10 ^ (-power).toNat) x.lowerEnd_le
  have lower : x.lowerEnd * 10 ^ (-power).toNat < coefficient * (4 * one * 10 ^ power.toNat) :=
    Nat.lt_of_lt_of_le (Nat.lt_of_le_of_lt le (x.lt_gridFloor power)) ge
  rw [readsAs_iff]
  exact and_iff_right (within_iff.mpr (.inl lower))

/-- If a point of a grid reads back, one of the two neighbours does. -/
theorem neighbour_readsAs (reads : (Decimal.mk coefficient power).ReadsAs x) :
    (Decimal.mk (x.gridFloor power) power).ReadsAs x ∨ (Decimal.mk (x.gridFloor power + 1) power).ReadsAs x := by
  obtain below | above := Nat.lt_or_ge (x.gridFloor power) coefficient |>.symm
  · rw [readsAs_iff_of_le below] at reads
    refine .inl ((readsAs_iff_of_le (Nat.le_refl _)).mpr ?_)
    exact within_of_le_of_le reads (Nat.le_refl _) (Nat.mul_le_mul_right _ below)
  · rw [readsAs_iff_of_lt above] at reads
    refine .inr ((readsAs_iff_of_lt (Nat.lt_succ_self _)).mpr ?_)
    exact within_of_le_of_le reads (Nat.mul_le_mul_right _ above) (Nat.le_refl _)

/-- The search on a grid, in terms of what reads back. -/
inductive Neighbour (x : Finite64) (power : Int) : Option Nat → Prop
  | none : (∀ coefficient, ¬ (Decimal.mk coefficient power).ReadsAs x) → Neighbour x power none
  | below : (Decimal.mk (x.gridFloor power) power).ReadsAs x → Neighbour x power (some (x.gridFloor power))
  | above : (Decimal.mk (x.gridFloor power + 1) power).ReadsAs x → Neighbour x power (some (x.gridFloor power + 1))

theorem neighbour?_neighbour (tie : Tie) (x : Finite64) (power : Int) : x.Neighbour power (x.neighbour? tie power) := by
  have low := readsAs_iff_of_le (Nat.le_refl (x.gridFloor power))
  have high := readsAs_iff_of_lt (Nat.lt_succ_self (x.gridFloor power))
  unfold neighbour?
  extract_lets up grid value below above lowHits highHits
  change _ ↔ lowHits = true at low
  change _ ↔ highHits = true at high
  clear_value lowHits highHits
  cases lowHits with
  | false =>
    cases highHits with
    | false =>
      refine .none fun coefficient reads => ?_
      obtain below | above := neighbour_readsAs reads
      · exact Bool.noConfusion (low.mp below)
      · exact Bool.noConfusion (high.mp above)
    | true => exact .above (high.mpr rfl)
  | true =>
    cases highHits with
    | false => exact .below (low.mpr rfl)
    | true =>
      have below : x.Neighbour power (some below) := .below (low.mpr rfl)
      have above : x.Neighbour power (some above) := .above (high.mpr rfl)
      dsimp only
      split
      · exact below
      · split
        · exact above
        · cases tie with
          | up => exact above
          | even =>
            dsimp only
            split
            · exact below
            · exact above

/-! The first grid, and the last. -/

theorem isZero_iff_significand : x.isZero = true ↔ x.significand = 0 := by rw [isZero, beq_iff_eq]

theorem significand_pos (nonzero : x.isZero = false) : 0 < x.significand :=
  Nat.pos_of_ne_zero fun none => Bool.false_ne_true (nonzero ▸ isZero_iff_significand.mpr none)

theorem units_pos (nonzero : x.isZero = false) : 0 < x.units :=
  Nat.mul_pos (significand_pos nonzero) (Nat.two_pow_pos _)

/-- The magnitude is the power of ten of the first digit. -/
theorem magnitude_bounds (nonzero : x.isZero = false) :
    one * 10 ^ x.magnitude.toNat ≤ x.units * 10 ^ (-x.magnitude).toNat ∧
      x.units * 10 ^ (-x.magnitude).toNat < 10 * (one * 10 ^ x.magnitude.toNat) := by
  have positive := units_pos nonzero
  have length (n : Nat) : ∃ width, (decimalDigits n).length = width + 1 :=
    Nat.exists_eq_succ_of_ne_zero (Nat.ne_of_gt (length_decimalDigits_pos n))
  rw [magnitude]
  split
  · rename_i large
    obtain ⟨width, same⟩ := length (x.units / one)
    have whole := Nat.div_pos large one_pos
    have lower : 10 ^ width ≤ x.units / one := pow_le_of_lt_length whole (by omega)
    have upper := lt_pow_length (x.units / one)
    have power : ((decimalDigits (x.units / one)).length - 1 : Int) = width := by omega
    have fraction : (-(width : Int)).toNat = 0 := by omega
    rw [same, Nat.pow_succ, Nat.div_lt_iff_lt_mul one_pos] at upper
    rw [Nat.le_div_iff_mul_le one_pos] at lower
    rw [power, fraction, Int.toNat_natCast, Nat.pow_zero, Nat.mul_one, Nat.mul_comm one]
    refine ⟨lower, Nat.lt_of_lt_of_le upper (Nat.le_of_eq ?_)⟩
    rw [Nat.mul_comm (10 ^ width), Nat.mul_assoc]
  · rename_i small
    -- The power of ten of the first digit is that of the reciprocal, rounded up.
    have inverse := Nat.div_add_mod' (one + x.units - 1) x.units
    have rest := Nat.mod_lt (one + x.units - 1) positive
    generalize (one + x.units - 1) / x.units = reciprocal at inverse ⊢
    obtain ⟨before, rfl⟩ : ∃ before, reciprocal = before + 1 := by
      refine Nat.exists_eq_succ_of_ne_zero ?_
      rintro rfl
      omega
    rw [Nat.add_mul, Nat.one_mul] at inverse
    have whole : 0 < before := by
      refine Nat.pos_of_ne_zero ?_
      rintro rfl
      omega
    obtain ⟨width, same⟩ := length before
    have least : 10 ^ width ≤ before := pow_le_of_lt_length whole (by omega)
    have lower := Nat.mul_le_mul_right x.units least
    have upper := Nat.mul_le_mul_right x.units (Nat.succ_le_of_lt (lt_pow_length before))
    have power : (-((decimalDigits (before + 1 - 1)).length : Int)) = -(width + 1 : Nat) := by
      rw [Nat.add_sub_cancel, same]
    have next : x.units * 10 ^ (width + 1) = 10 * (10 ^ width * x.units) := by
      rw [Nat.pow_succ, Nat.mul_comm (10 ^ width), Nat.mul_comm x.units, Nat.mul_assoc]
    have negative : (-((width + 1 : Nat) : Int)).toNat = 0 := by omega
    rw [same, Nat.succ_eq_add_one, Nat.add_mul, Nat.one_mul, Nat.mul_comm (10 ^ _), next] at upper
    rw [power, negative, Int.neg_neg, Int.toNat_natCast, Nat.pow_zero, Nat.mul_one, next]
    omega

/-- On the first grid the number has one digit. -/
theorem gridFloor_magnitude (nonzero : x.isZero = false) :
    1 ≤ x.gridFloor x.magnitude ∧ x.gridFloor x.magnitude ≤ 9 := by
  obtain ⟨lower, upper⟩ := magnitude_bounds nonzero
  have grid := grid_pos x.magnitude
  have value : x.quarters * 10 ^ (-x.magnitude).toNat = 4 * (x.units * 10 ^ (-x.magnitude).toNat) := by
    rw [quarters, Nat.mul_assoc]
  have point : 4 * one * 10 ^ x.magnitude.toNat = 4 * (one * 10 ^ x.magnitude.toNat) := Nat.mul_assoc _ _ _
  refine ⟨(Nat.le_div_iff_mul_le grid).mpr ?_, Nat.le_of_lt_succ ((Nat.div_lt_iff_lt_mul grid).mpr ?_)⟩
  · rw [value, point]
    omega
  · rw [value, point]
    omega

/-- Sixteen grids further a value has sixteen digits more. -/
theorem pow_mul_le_mul_pow {unit value : Nat} (power : Int)
    (lower : unit * 10 ^ power.toNat ≤ value * 10 ^ (-power).toNat) :
    10 ^ (16 : Nat) * (unit * 10 ^ (power - 16).toNat) ≤ value * 10 ^ (-(power - 16)).toNat := by
  have positive : 0 < 10 ^ (-power).toNat := Nat.pow_pos (by decide)
  have powers : 10 ^ (16 : Nat) * 10 ^ (power - 16).toNat * 10 ^ (-power).toNat =
      10 ^ power.toNat * 10 ^ (-(power - 16)).toNat := by
    rw [← Nat.pow_add, ← Nat.pow_add, ← Nat.pow_add]
    congr 1
    omega
  have scaled := Nat.mul_le_mul_right (10 ^ (-(power - 16)).toNat) lower
  rw [Nat.mul_assoc unit, ← powers, Nat.mul_right_comm value, ← Nat.mul_assoc unit, Nat.mul_left_comm unit] at scaled
  exact Nat.le_of_mul_le_mul_right scaled positive

/-- The steps of a grid of seventeen digits are narrower than the interval, so that a neighbour lies in it. -/
theorem exists_readsAs (nonzero : x.isZero = false) :
    ∃ coefficient, (Decimal.mk coefficient (x.magnitude - 16)).ReadsAs x := by
  have positive : 0 < 10 ^ (-(x.magnitude - 16)).toNat * 2 ^ x.scale :=
    Nat.mul_pos (Nat.pow_pos (by decide)) (Nat.two_pow_pos _)
  have value : x.units * 10 ^ (-(x.magnitude - 16)).toNat =
      x.significand * (10 ^ (-(x.magnitude - 16)).toNat * 2 ^ x.scale) := by
    rw [units, Nat.mul_assoc, Nat.mul_comm (2 ^ x.scale)]
  have narrow := pow_mul_le_mul_pow x.magnitude (magnitude_bounds nonzero).1
  have floor := x.gridFloor_le (x.magnitude - 16)
  have next := Nat.add_one_mul (x.gridFloor (x.magnitude - 16)) (4 * (one * 10 ^ (x.magnitude - 16).toNat))
  have above := readsAs_iff_of_lt (Nat.lt_succ_self (x.gridFloor (x.magnitude - 16)))
  have below := readsAs_iff_of_le (Nat.le_refl (x.gridFloor (x.magnitude - 16)))
  rw [Nat.succ_eq_add_one, upperEnd_mul, within_iff, Nat.mul_assoc 4 one] at above
  rw [lowerEnd_mul, within_iff, Nat.mul_assoc 4 one] at below
  rw [quarters_mul, Nat.mul_assoc 4 one] at floor
  rw [value] at narrow
  generalize 10 ^ (-(x.magnitude - 16)).toNat * 2 ^ x.scale = step at *
  generalize one * 10 ^ (x.magnitude - 16).toNat = grid at *
  by_cases hits : (x.gridFloor (x.magnitude - 16) + 1) * (4 * grid) < 4 * (x.significand * step) + 2 * step
  · exact ⟨_, above.mpr (.inl hits)⟩
  · refine ⟨_, below.mpr (.inl ?_)⟩
    rw [lowerGap]
    split
    · rename_i least
      rw [least.1] at narrow floor hits ⊢
      omega
    · have small := Nat.mul_le_mul_right step (Nat.le_sub_one_of_lt x.significand_lt)
      omega

/-! The search over the grids. -/

/-- A decimal that reads back and has no zero at the end, on the coarsest grid that has one. -/
structure Shortest (x : Finite64) (d : Decimal) : Prop where
  reads : d.ReadsAs x
  trimmed : d.coefficient % 10 ≠ 0
  coarsest : ∀ power, d.exponent < power → power ≤ x.magnitude →
    ∀ coefficient, ¬ (Decimal.mk coefficient power).ReadsAs x

theorem Neighbour.reads (neighbour : x.Neighbour power (some coefficient)) :
    (Decimal.mk coefficient power).ReadsAs x := by
  cases neighbour with
  | below reads => exact reads
  | above reads => exact reads

theorem Neighbour.coefficient_bounds (nonzero : x.isZero = false)
    (neighbour : x.Neighbour x.magnitude (some coefficient)) : 1 ≤ coefficient ∧ coefficient ≤ 10 := by
  obtain ⟨lower, upper⟩ := gridFloor_magnitude nonzero
  cases neighbour with
  | below _ => exact ⟨lower, Nat.le_succ_of_le upper⟩
  | above _ => exact ⟨Nat.le_succ_of_le lower, Nat.succ_le_succ upper⟩

/-- A first hit needs a carry on the first grid alone, where it can only be ten. -/
theorem shortest_carry (nonzero : x.isZero = false) (neighbour : x.Neighbour power (some coefficient))
    (le : power ≤ x.magnitude)
    (coarser : ∀ power', power < power' → power' ≤ x.magnitude →
      ∀ coefficient, ¬ (Decimal.mk coefficient power').ReadsAs x) :
    x.Shortest (carry ⟨coefficient, power⟩) := by
  rw [carry]
  split
  · rename_i tens
    obtain ⟨fewer, rfl⟩ := Nat.dvd_of_mod_eq_zero tens
    have reads := Decimal.readsAs_tenfold_iff.mp neighbour.reads
    dsimp only
    rw [Nat.mul_div_cancel_left fewer (by decide)]
    obtain less | first := Int.lt_or_eq_of_le le
    · exact absurd reads (coarser _ (Int.lt_succ power) less _)
    · rw [first] at neighbour reads ⊢
      have bounds := neighbour.coefficient_bounds nonzero
      obtain rfl : fewer = 1 := by omega
      refine ⟨reads, Nat.one_ne_zero, fun power' above below => absurd below ?_⟩
      exact Int.not_le_of_gt (Int.lt_trans (Int.lt_succ _) above)
  · rename_i trimmed
    exact ⟨neighbour.reads, trimmed, coarser⟩

theorem shortest_shortestFrom (tie : Tie) (nonzero : x.isZero = false) {tries : Nat}
    (last : power - tries = x.magnitude - 17) (le : power ≤ x.magnitude)
    (coarser : ∀ power', power < power' → power' ≤ x.magnitude →
      ∀ coefficient, ¬ (Decimal.mk coefficient power').ReadsAs x) :
    x.Shortest (x.shortestFrom tie tries power) := by
  induction tries generalizing power with
  | zero =>
    obtain ⟨coefficient, reads⟩ := exists_readsAs nonzero
    exact absurd reads (coarser _ (by omega) (by omega) coefficient)
  | succ tries ih =>
    have neighbour := neighbour?_neighbour tie x power
    rw [shortestFrom]
    split
    · rename_i coefficient found
      rw [found] at neighbour
      exact shortest_carry nonzero neighbour le coarser
    · rename_i none
      rw [none] at neighbour
      obtain ⟨fails⟩ := neighbour
      refine ih (by omega) (by omega) fun power' above below => ?_
      obtain rfl | above := Int.lt_or_eq_of_le (Int.le_of_sub_one_lt above) |>.symm
      · exact fails
      · exact coarser power' above below

theorem shortest_shortest (tie : Tie) (nonzero : x.isZero = false) : x.Shortest (x.shortest tie) := by
  rw [shortest, if_neg (Bool.eq_false_iff.mp nonzero)]
  refine shortest_shortestFrom tie nonzero rfl (Int.le_refl _) fun power above below => ?_
  exact absurd below (Int.not_le_of_gt above)

end Finite64
end Tenancy
