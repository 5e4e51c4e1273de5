import Tenancy.Proofs.Numeral.RoundTrip

/-! Integers as binary numbers. The number nearest to an integer is an integer, and the integer itself just when 53
bits hold it up to a power of two. The texts of integers of at most 53 bits are canonical. -/
namespace Tenancy

open scoped Powers

namespace Finite64

variable {x : Finite64} {n : Nat}

/-- A number attracts no other multiple of its step. -/
theorem units_eq_of_dvd (attracts : x.Attracts n 1) (multiple : 2 ^ x.scale ∣ n * one) : x.units = n * one := by
  obtain ⟨steps, same⟩ := multiple
  obtain ⟨lower, upper⟩ := attracts_iff.mp attracts
  have step := Nat.two_pow_pos x.scale
  have gap := x.lowerGap_le
  have value : n * one = steps * 2 ^ x.scale := same.trans (Nat.mul_comm _ _)
  rw [value, Nat.one_mul, within_iff, ← Nat.mul_assoc, ← Nat.mul_assoc, ← Nat.add_mul, Nat.mul_lt_mul_right step,
    Nat.mul_left_inj (Nat.ne_of_gt step)] at lower
  rw [value, Nat.one_mul, within_iff, ← Nat.mul_assoc, ← Nat.mul_assoc, ← Nat.add_mul, Nat.mul_lt_mul_right step,
    Nat.mul_left_inj (Nat.ne_of_gt step)] at upper
  have exact : x.significand = steps := by omega
  rw [value, units, exact]

theorem pow_dvd_one {scale : Nat} (small : scale ≤ 1074) : 2 ^ scale ∣ one :=
  ⟨2 ^ (1074 - scale), by rw [one, ← Nat.pow_add, Nat.add_sub_of_le small]⟩

/-- Above 53 bits the step is an integer. -/
theorem pow_eq_mul_one {scale : Nat} (large : 1074 ≤ scale) : 2 ^ scale = 2 ^ (scale - 1074) * one := by
  rw [one, ← Nat.pow_add, Nat.sub_add_cancel large]

theorem units_eq_of_scale_le (attracts : x.Attracts n 1) (small : x.scale ≤ 1074) : x.units = n * one :=
  units_eq_of_dvd attracts (Nat.dvd_trans (pow_dvd_one small) (Nat.dvd_mul_left _ _))

/-- What is nearest to an integer is an integer. -/
theorem exists_units_eq (attracts : x.Attracts n 1) : ∃ m, x.units = m * one := by
  obtain small | large := Nat.le_total x.scale 1074
  · exact ⟨n, units_eq_of_scale_le attracts small⟩
  · exact ⟨x.significand * 2 ^ (x.scale - 1074), by rw [units, pow_eq_mul_one large, Nat.mul_assoc]⟩

/-- The integers that are numbers: at most 53 bits, and zeros after them. -/
def IsShort (n : Nat) : Prop := ∃ bits zeros : Nat, bits < 2 ^ (53 : Nat) ∧ n = bits * 2 ^ zeros

theorem isShort_of_units_eq (exact : x.units = n * one) : IsShort n := by
  obtain small | large := Nat.le_total x.scale 1074
  · -- The step is a fraction, so that the significand alone bounds the integer.
    obtain ⟨fraction, same⟩ := pow_dvd_one small
    have positive : 0 < fraction := by
      refine Nat.pos_of_ne_zero ?_
      rintro rfl
      exact absurd same (Nat.ne_of_gt one_pos)
    have value : x.significand = n * fraction := by
      rw [units, same, Nat.mul_left_comm, Nat.mul_comm] at exact
      exact Nat.eq_of_mul_eq_mul_left (Nat.two_pow_pos x.scale) exact
    refine ⟨n, 0, Nat.lt_of_le_of_lt ?_ x.significand_lt, (Nat.mul_one n).symm⟩
    rw [value]
    exact Nat.le_mul_of_pos_right n positive
  · refine ⟨x.significand, x.scale - 1074, x.significand_lt, ?_⟩
    rw [units, pow_eq_mul_one large, ← Nat.mul_assoc] at exact
    exact (Nat.eq_of_mul_eq_mul_right one_pos exact).symm

/-- A number whose step does not divide an integer of 53 bits and zeros is greater than it. -/
theorem units_eq_of_isShort (attracts : x.Attracts n 1) (short : IsShort n) : x.units = n * one := by
  obtain ⟨bits, zeros, few, rfl⟩ := short
  have value : bits * 2 ^ zeros * one = bits * 2 ^ (zeros + 1074) := by rw [Nat.mul_assoc, one, ← Nat.pow_add]
  refine units_eq_of_dvd attracts ?_
  obtain divides | coarse := Nat.lt_or_ge (zeros + 1074) x.scale |>.symm
  · rw [value]
    exact Nat.dvd_trans (Nat.pow_dvd_pow 2 divides) (Nat.dvd_mul_left _ _)
  · exfalso
    obtain ⟨lower, -⟩ := attracts_iff.mp attracts
    have shifted : 0 < x.scale := Nat.zero_lt_of_lt coarse
    have normal := x.normal.resolve_left (Nat.ne_of_gt shifted)
    have double : 2 ^ x.scale = 2 * 2 ^ (x.scale - 1) := by
      rw [← Nat.pow_succ', Nat.succ_eq_add_one, Nat.sub_add_cancel shifted]
    have most : bits * 2 ^ (zeros + 1074) ≤ (2 ^ (53 : Nat) - 1) * 2 ^ (x.scale - 1) :=
      Nat.mul_le_mul (Nat.le_sub_one_of_lt few) (Nat.pow_le_pow_right (by decide) (Nat.le_sub_one_of_lt coarse))
    have positive := Nat.two_pow_pos (x.scale - 1)
    have lower := le_of_within lower
    rw [value, Nat.one_mul, double, lowerGap] at lower
    clear value double
    generalize 2 ^ (x.scale - 1) = half at *
    generalize bits * 2 ^ (zeros + 1074) = integer at *
    obtain least | larger := Nat.eq_or_lt_of_le normal
    · rw [if_pos ⟨least.symm, shifted⟩, ← least] at lower
      omega
    · have large := Nat.mul_le_mul_right (2 * half) larger
      rw [if_neg (fun least => Nat.ne_of_gt larger least.1)] at lower
      omega

end Finite64

namespace Finite64

variable {x : Finite64} {i : Int}

/-! Signed values. -/

/-- No other number is nearer to an integer. -/
def IsNearest (x : Finite64) (i : Int) : Prop :=
  ∀ y : Finite64, (x.signedUnits - i * one).natAbs ≤ (y.signedUnits - i * one).natAbs

theorem natAbs_signedUnits (x : Finite64) : x.signedUnits.natAbs = x.units := by
  rw [signedUnits]
  split <;> simp

theorem units_of_signedUnits (value : x.signedUnits = i * one) : x.units = i.natAbs * one := by
  rw [← natAbs_signedUnits, value, Int.natAbs_mul, Int.natAbs_natCast]

theorem signedUnits_of_units (sign : x.negative = decide (i < 0)) (value : x.units = i.natAbs * one) :
    x.signedUnits = i * one := by
  rw [signedUnits, sign, value, Int.natCast_mul]
  generalize one = unit
  obtain negative | positive := Int.lt_or_le i 0
  · have magnitude : (i.natAbs : Int) = -i := by omega
    rw [if_pos (decide_eq_true negative), magnitude, Int.neg_mul, Int.neg_neg]
  · have magnitude : (i.natAbs : Int) = i := by omega
    rw [if_neg (by simpa using positive), magnitude]

theorem signedUnits_inj {j : Int} (value : x.signedUnits = j * one) : x.signedUnits = i * one ↔ j = i := by
  rw [value]
  exact Int.mul_eq_mul_right_iff (Int.natCast_ne_zero.mpr (Nat.ne_of_gt one_pos))

theorem exists_signedUnits_eq {n : Nat} (attracts : x.Attracts n 1) : ∃ j : Int, x.signedUnits = j * one := by
  obtain ⟨m, value⟩ := exists_units_eq attracts
  rw [signedUnits, value, Int.natCast_mul]
  split
  · exact ⟨-m, (Int.neg_mul _ _).symm⟩
  · exact ⟨m, rfl⟩

/-- A number that is nearest to an integer is that integer only if it is short. -/
theorem signedUnits_eq_iff (sign : x.negative = decide (i < 0)) (attracts : x.Attracts i.natAbs 1) :
    x.signedUnits = i * one ↔ IsShort i.natAbs :=
  ⟨fun value => isShort_of_units_eq (units_of_signedUnits value),
    fun short => signedUnits_of_units sign (units_eq_of_isShort attracts short)⟩

end Finite64

section Digits

variable {n : Nat}

/-- Zeros after the digits of a natural are powers of ten. -/
theorem decimalDigits_append_zeros (positive : 0 < n) (zeros : Nat) :
    decimalDigits n ++ List.replicate zeros '0' = decimalDigits (10 ^ zeros * n) := by
  induction zeros with
  | zero => rw [Nat.pow_zero, Nat.one_mul, List.replicate_zero, List.append_nil]
  | succ zeros ih =>
    have more : 0 < 10 ^ zeros * n := Nat.mul_pos (Nat.pow_pos (by decide)) positive
    have digit := Nat.toDigits_append_toDigits (b := 10) (d := 0) (by decide) more (by decide)
    rw [List.replicate_succ', ← List.append_assoc, ih, Nat.pow_succ', Nat.mul_assoc]
    exact digit

end Digits

namespace Finite64

variable {x : Finite64} {n : Nat}

theorem attracts_of_units_eq (value : x.units = n * one) : x.Attracts n 1 := by
  have attracts : x.Attracts (one * n) (one * 1) := by
    rw [Nat.mul_comm, ← value, Nat.mul_one]
    exact x.attracts_units
  exact (attracts_mul_iff one_pos).mp attracts

theorem scale_le_of_lt (small : n < 2 ^ (53 : Nat)) (value : x.units = n * one) : x.scale ≤ 1074 := by
  apply Nat.le_of_not_lt
  intro large
  have normal := x.normal.resolve_left (Nat.ne_of_gt (Nat.zero_lt_of_lt large))
  have double := Nat.pow_le_pow_right (n := 2) (by decide) (Nat.sub_pos_of_lt large)
  have least := Nat.mul_le_mul normal double
  rw [units, pow_eq_mul_one (Nat.le_of_lt large), ← Nat.mul_assoc] at value
  rw [Nat.eq_of_mul_eq_mul_right one_pos value] at least
  omega

/-- The shortest decimal of an integer of 53 bits is the integer without the zeros at its end. -/
theorem shortest_eq_integer {d : Decimal} (shortest : x.Shortest d) (positive : 0 < n) (small : n < 2 ^ (53 : Nat))
    (value : x.units = n * one) : ∃ zeros : Nat, d.exponent = zeros ∧ 10 ^ zeros * d.coefficient = n := by
  have whole : 0 ≤ d.exponent := by
    -- The integer itself reads back on the grid of integers.
    refine Int.not_lt.mp fun fraction => ?_
    have large : one ≤ x.units := by
      rw [value]
      exact Nat.le_mul_of_pos_left one positive
    have magnitude : 0 ≤ x.magnitude := by
      have length := length_decimalDigits_pos (x.units / one)
      rw [magnitude, if_pos large]
      omega
    have reads : (Decimal.mk n 0).ReadsAs x := by
      rw [Decimal.ReadsAs, Decimal.numerator, Int.toNat_zero, Nat.pow_zero, Nat.mul_one]
      exact attracts_of_units_eq value
    exact shortest.coarsest 0 fraction magnitude n reads
  obtain ⟨zeros, same⟩ := Int.eq_ofNat_of_zero_le whole
  refine ⟨zeros, same, ?_⟩
  have reads := shortest.reads
  have down : (-(zeros : Int)).toNat = 0 := by omega
  rw [Decimal.ReadsAs, Decimal.numerator, Decimal.denominator, same, Int.toNat_natCast, down, Nat.pow_zero] at reads
  have exact := units_eq_of_scale_le reads (scale_le_of_lt small value)
  rw [value] at exact
  rw [Nat.mul_comm]
  exact (Nat.eq_of_mul_eq_mul_right one_pos exact).symm

end Finite64

namespace Binary64

open Numeral

variable {x : Finite64} {i : Int}

theorem exists_ofInt_eq_finite (small : i.natAbs < 2 ^ (64 : Nat)) : ∃ x, ofInt i = .finite x := by
  have bound : i.natAbs < 2 ^ (64 : Nat) * 1 := by omega
  exact exists_nearest_eq_finite (by decide) (by decide) bound

theorem ofInt_eq_finite_iff : ofInt i = .finite x ↔ x.negative = decide (i < 0) ∧ x.Attracts i.natAbs 1 :=
  nearest_eq_finite_iff (by decide)

/-- No number is nearer to an integer than the one it is rounded to. -/
theorem isNearest_of_ofInt (nearest : ofInt i = .finite x) : x.IsNearest i := by
  intro y
  obtain ⟨sign, attracts⟩ := ofInt_eq_finite_iff.mp nearest
  have least := attracts.le_distance y
  rw [Nat.mul_one, Nat.mul_one] at least
  have magnitude : (i * Finite64.one).natAbs = i.natAbs * Finite64.one := by rw [Int.natAbs_mul, Int.natAbs_natCast]
  have unit : (0 : Int) < Finite64.one := Int.natCast_pos.mpr Finite64.one_pos
  have negative : i < 0 ↔ i * Finite64.one < 0 := by
    refine ⟨fun below => Int.mul_neg_of_neg_of_pos below unit, fun below => Int.not_le.mp fun above => ?_⟩
    exact absurd (Int.mul_nonneg above (Int.le_of_lt unit)) (Int.not_le.mpr below)
  rw [← magnitude] at least
  simp only [Finite64.signedUnits, sign, decide_eq_true_eq, negative]
  generalize i * Finite64.one = target at *
  split <;> split <;> omega

theorem toList_integerText (i : Int) : (integerText i).toList = minus (decide (i < 0)) ++ decimalDigits i.natAbs := by
  rw [integerText, minus, decimalText]
  split <;> simp_all

/-- The text of an integer is read as the number nearest to it. -/
theorem parse?_integerText (small : i.natAbs < 2 ^ (64 : Nat)) : parse? (integerText i) = some (ofInt i) := by
  have digits := isDigits_decimalDigits i.natAbs
  have signed : (integerText i).toList = minus (decide (i < 0)) ++ (decimalDigits i.natAbs ++ []) := by
    rw [List.append_nil, toList_integerText]
  have read : decimal? (decimalDigits i.natAbs ++ []) = some ⟨i.natAbs, 0⟩ := by
    have read := decimal?_numeral digits (List.forall_mem_nil _) (.inl rfl : IsTail [])
    rw [List.append_nil, List.append_nil, ofDigitChars_decimalDigits] at read
    exact read
  rw [parse?_of_decimal? digits signed read]
  obtain rfl | nonzero := Decidable.em (i = 0)
  · decide +kernel
  · have positive : i.natAbs ≠ 0 := by omega
    have bound : i.natAbs < 10 ^ (20 : Nat) := Nat.lt_trans small (by decide)
    have width := (length_decimalDigits_le_iff (by decide)).mpr bound
    have length := length_decimalDigits_pos i.natAbs
    have magnitude : (Decimal.mk i.natAbs 0).magnitude = (decimalDigits i.natAbs).length - 1 := by
      rw [Decimal.magnitude, Int.zero_add]
    rw [Decimal.toBinary64, if_neg positive, if_neg (by omega), if_neg (by omega), if_pos (Int.le_refl 0),
      Int.toNat_zero, Nat.pow_zero, Nat.mul_one, ofInt]

/-- The digits of an integer of 53 bits are all written, and nothing else. -/
theorem canonicalText_of_lt (small : i.natAbs < 2 ^ (53 : Nat)) (nearest : ofInt i = .finite x) :
    canonicalText (.finite x) = integerText i := by
  obtain ⟨sign, attracts⟩ := ofInt_eq_finite_iff.mp nearest
  have value := Finite64.units_eq_of_isShort attracts ⟨i.natAbs, 0, small, (Nat.mul_one _).symm⟩
  have none := Finite64.units_eq_zero_iff (x := x)
  rw [value, Nat.mul_eq_zero, or_iff_left (Nat.ne_of_gt Finite64.one_pos)] at none
  cases zero : x.isZero with
  | true =>
    obtain rfl : i = 0 := Int.natAbs_eq_zero.mp (none.mpr zero)
    exact canonicalText_of_isZero zero
  | false =>
    have positive : 0 < i.natAbs := Nat.pos_of_ne_zero fun absent => Bool.false_ne_true (zero ▸ none.mp absent)
    have shortest := Finite64.shortest_shortest .up zero
    have signed := toList_canonicalText zero rfl
    generalize x.shortest .up = d at shortest signed
    obtain ⟨zeros, exponent, digits⟩ := Finite64.shortest_eq_integer shortest positive small value
    have coefficient := shortest.reads.coefficient_pos zero
    have length := length_decimalDigits_pos d.coefficient
    have magnitude : d.magnitude = (zeros + ((decimalDigits d.coefficient).length - 1) : Nat) := by
      rw [Decimal.magnitude, exponent]
      omega
    have powers : 10 ^ (zeros + ((decimalDigits d.coefficient).length - 1)) < 10 ^ (16 : Nat) := by
      calc 10 ^ (zeros + ((decimalDigits d.coefficient).length - 1))
        _ ≤ 10 ^ zeros * d.coefficient := by
          rw [Nat.pow_add]
          exact Nat.mul_le_mul_left _ (pow_le_of_lt_length coefficient (Nat.sub_one_lt_of_lt length))
        _ = i.natAbs := digits
        _ < 10 ^ (16 : Nat) := Nat.lt_trans small (by decide)
    have less := (Nat.pow_lt_pow_iff_right (by decide)).mp powers
    obtain ⟨whole, fraction⟩ := parts_of_zeros length zeros
    rw [magnitude, if_pos ⟨by omega, by omega⟩, whole, fraction, decimalDigits_append_zeros coefficient, digits,
      sign] at signed
    rw [← String.toList_inj, signed, toList_integerText]
    exact congrArg _ (List.append_nil _)

end Binary64
end Tenancy
