import Tenancy.Proofs.Numeral.Canonical

/-! Canonical texts read back. The digits of a text are those of the shortest decimal, with zeros that move the
point, and no such decimal is near the bounds beyond which texts are not read at all. -/
namespace Tenancy

open scoped Powers

/-! The bounds beyond which a decimal is not read. -/

namespace Finite64

variable {x : Finite64}

theorem lowerEnd_pos (nonzero : x.isZero = false) : 0 < x.lowerEnd := by
  have step := Nat.two_pow_pos x.scale
  have value := x.lowerEnd_mul 1
  have large := Nat.le_mul_of_pos_left (2 ^ x.scale) (significand_pos nonzero)
  have gap := Nat.mul_le_mul_right (2 ^ x.scale) x.lowerGap_le
  rw [Nat.mul_one, Nat.one_mul] at value
  omega

theorem upperEnd_le (x : Finite64) : x.upperEnd ≤ 4 * one * 2 ^ (1024 : Nat) := by
  have value := x.upperEnd_mul 1
  rw [Nat.mul_one, Nat.one_mul, ← Nat.mul_assoc, ← Nat.add_mul] at value
  have significand : 4 * x.significand + 2 ≤ 2 ^ (55 : Nat) := by
    have small := x.significand_lt
    omega
  have power (top : Nat) (le : x.scale ≤ top) : 2 ^ x.scale ≤ 2 ^ top := Nat.pow_le_pow_right Nat.two_pos le
  rw [value]
  calc (4 * x.significand + 2) * 2 ^ x.scale
    _ ≤ 2 ^ (55 : Nat) * 2 ^ (2045 : Nat) := Nat.mul_le_mul significand (power 2045 x.scale_le)
    _ = 4 * one * 2 ^ (1024 : Nat) := by decide +kernel

end Finite64

namespace Decimal

variable {x : Finite64} {d : Decimal}

theorem ReadsAs.coefficient_pos (reads : d.ReadsAs x) (nonzero : x.isZero = false) : 0 < d.coefficient := by
  refine Nat.pos_of_ne_zero fun none => ?_
  have zero : d.numerator = 0 := by rw [numerator, none, Nat.zero_mul]
  have lower := Finite64.le_of_within reads.lower
  have positive := Nat.mul_pos (Finite64.lowerEnd_pos nonzero) d.denominator_pos
  rw [zero, Nat.mul_zero] at lower
  omega

theorem ReadsAs.magnitude_le (reads : d.ReadsAs x) (positive : 0 < d.coefficient) : d.magnitude ≤ 310 := by
  have upper := Finite64.le_of_within reads.upper
  have most := Nat.mul_le_mul_right d.denominator x.upperEnd_le
  have value : d.numerator ≤ 2 ^ (1024 : Nat) * d.denominator := by
    refine Nat.le_of_mul_le_mul_left (?_ : 4 * Finite64.one * _ ≤ 4 * Finite64.one * _)
      (Nat.mul_pos (by decide) Finite64.one_pos)
    rw [← Nat.mul_assoc]
    omega
  have digits := length_decimalDigits_pos d.coefficient
  have least := pow_le_of_lt_length positive (Nat.sub_one_lt_of_lt digits)
  have powers :
      10 ^ ((decimalDigits d.coefficient).length - 1 + d.exponent.toNat) < 10 ^ (309 + (-d.exponent).toNat) := by
    calc 10 ^ ((decimalDigits d.coefficient).length - 1 + d.exponent.toNat)
      _ ≤ d.numerator := by
        rw [Nat.pow_add]
        exact Nat.mul_le_mul_right _ least
      _ ≤ 2 ^ (1024 : Nat) * d.denominator := value
      _ < 10 ^ (309 : Nat) * d.denominator := Nat.mul_lt_mul_of_pos_right (by decide +kernel) d.denominator_pos
      _ = 10 ^ (309 + (-d.exponent).toNat) := by rw [Nat.pow_add, denominator]
  have less := (Nat.pow_lt_pow_iff_right (by decide)).mp powers
  rw [magnitude]
  omega

theorem ReadsAs.le_magnitude (reads : d.ReadsAs x) (nonzero : x.isZero = false) : -330 ≤ d.magnitude := by
  have lower := Finite64.le_of_within reads.lower
  have least := Nat.mul_le_mul_right d.denominator (Finite64.lowerEnd_pos nonzero)
  have value : d.denominator ≤ 4 * Finite64.one * d.numerator := by omega
  have most := lt_pow_length d.coefficient
  have powers : 10 ^ (-d.exponent).toNat < 10 ^ (324 + ((decimalDigits d.coefficient).length + d.exponent.toNat)) := by
    calc 10 ^ (-d.exponent).toNat
      _ ≤ 4 * Finite64.one * d.numerator := value
      _ < 4 * Finite64.one * 10 ^ ((decimalDigits d.coefficient).length + d.exponent.toNat) := by
        rw [Nat.pow_add]
        refine Nat.mul_lt_mul_of_pos_left (Nat.mul_lt_mul_of_pos_right most (Nat.pow_pos (by decide)))
          (Nat.mul_pos (by decide) Finite64.one_pos)
      _ ≤ 10 ^ (324 : Nat) * 10 ^ ((decimalDigits d.coefficient).length + d.exponent.toNat) :=
        Nat.mul_le_mul_right _ (by decide +kernel)
      _ = 10 ^ (324 + ((decimalDigits d.coefficient).length + d.exponent.toNat)) := by rw [← Nat.pow_add]
  have less := (Nat.pow_lt_pow_iff_right (by decide)).mp powers
  rw [magnitude]
  omega

theorem toBinary64_of_readsAs (reads : d.ReadsAs x) (nonzero : x.isZero = false) :
    d.toBinary64 x.negative = .finite x := by
  have positive := reads.coefficient_pos nonzero
  have high := reads.magnitude_le positive
  have low := reads.le_magnitude nonzero
  have read := (Binary64.nearest_eq_finite_iff d.denominator_pos).mpr ⟨Eq.refl x.negative, reads⟩
  rw [toBinary64, if_neg (Nat.ne_of_gt positive), if_neg (Int.not_lt.mpr high), if_neg (Int.not_lt.mpr low), ← read,
    numerator, denominator]
  split
  · rename_i above
    have whole : (-d.exponent).toNat = 0 := by omega
    rw [whole, Nat.pow_zero]
  · rename_i below
    have fraction : d.exponent.toNat = 0 := by omega
    have same : (-d.exponent).toNat = d.exponent.natAbs := by omega
    rw [fraction, same, Nat.pow_zero, Nat.mul_one]

/-- Zeros after a coefficient move the exponent. -/
theorem readsAs_shift_iff {coefficient : Nat} {power : Int} (zeros : Nat) :
    (Decimal.mk (10 ^ zeros * coefficient) power).ReadsAs x ↔ (Decimal.mk coefficient (power + zeros)).ReadsAs x := by
  induction zeros generalizing power with
  | zero => rw [Nat.pow_zero, Nat.one_mul, Int.natCast_zero, Int.add_zero]
  | succ zeros ih =>
    rw [Nat.pow_succ, Nat.mul_comm (10 ^ zeros), Nat.mul_assoc, readsAs_tenfold_iff, ih, Int.natCast_succ,
      Int.add_assoc, Int.add_comm 1]

end Decimal

namespace Binary64

open Numeral

variable {whole fraction digits tail : List Char} {small : Bool}

/-! Reading the parts of a numeral. -/

theorem sign_minus (negative : Bool) (whole : IsDigits digits) : sign (minus negative ++ (digits ++ tail)) =
    (negative, digits ++ tail) := by
  cases negative with
  | true => rfl
  | false =>
    cases digits with
    | nil => exact absurd rfl whole.nonempty
    | cons c rest =>
      have digit := whole.digit c List.mem_cons_self
      rw [minus, if_neg Bool.false_ne_true, List.nil_append, List.cons_append, sign]
      · rintro text ⟨rfl, _⟩
        exact absurd digit (by decide)
      · rintro text ⟨rfl, _⟩
        exact absurd digit (by decide)

theorem takeWhile_digits (digit : ∀ c ∈ digits, c.isDigit = true)
    (stop : ∀ c, tail.head? = some c → isAsciiDigit c = false) :
    (digits ++ tail).takeWhile isAsciiDigit = digits ∧ (digits ++ tail).dropWhile isAsciiDigit = tail := by
  have all : ∀ c ∈ digits, isAsciiDigit c = true := fun c member => isAsciiDigit_of_isDigit (digit c member)
  rw [List.takeWhile_append_of_pos all, List.dropWhile_append_of_pos all]
  cases tail with
  | nil => exact ⟨List.append_nil _, rfl⟩
  | cons c rest =>
    have stop := Bool.eq_false_iff.mp (stop c rfl)
    rw [List.takeWhile_cons_of_neg stop, List.dropWhile_cons_of_neg stop]
    exact ⟨List.append_nil _, rfl⟩

/-- What may follow the digits of a numeral. -/
def IsTail (tail : List Char) : Prop := tail = [] ∨ tail.head? = some 'e'

theorem IsTail.stop (ends : IsTail tail) (c : Char) (first : tail.head? = some c) : isAsciiDigit c = false := by
  obtain rfl | e := ends
  · exact nomatch first
  · obtain rfl := Option.some.inj (e.symm.trans first)
    decide

/-- The digits of a numeral are those of the whole part and the fraction, and its point moves the exponent. -/
theorem decimal?_numeral (digits : IsDigits whole) (digits' : ∀ c ∈ fraction, c.isDigit = true) (ends : IsTail tail) :
    decimal? (whole ++ (pointed fraction ++ tail)) = (exponent? tail).map fun exponent =>
      ⟨Nat.ofDigitChars 10 (whole ++ fraction) 0, exponent - fraction.length⟩ := by
  by_cases none : fraction = []
  · obtain ⟨taken, dropped⟩ := takeWhile_digits digits.digit ends.stop
    rw [pointed, if_pos none, List.nil_append, decimal?, taken, dropped, naturalOf?_of_digits digits, none,
      List.append_nil]
    obtain rfl | e := ends
    · rfl
    · cases tail with
      | nil => cases e
      | cons c rest =>
        obtain rfl : c = 'e' := Option.some.inj e
        cases read : exponent? ('e' :: rest) <;> simp [read]
  · have point : ∀ c, ('.' :: fraction ++ tail).head? = some c → isAsciiDigit c = false := by
      rintro c first
      obtain rfl : '.' = c := Option.some.inj first
      decide
    obtain ⟨taken, dropped⟩ := takeWhile_digits digits.digit point
    obtain ⟨taken', dropped'⟩ := takeWhile_digits digits' ends.stop
    have longer : IsDigits (whole ++ fraction) :=
      ⟨List.append_ne_nil_of_left_ne_nil digits.nonempty _, List.forall_mem_append.mpr ⟨digits.digit, digits'⟩⟩
    rw [pointed, if_neg none, decimal?, taken, dropped]
    simp only [List.cons_append]
    rw [taken', dropped', naturalOf?_of_digits longer]
    cases exponent? tail <;> rfl

theorem exponent?_exponent (digits' : IsDigits digits) : exponent? (exponent small digits) =
    some (if small then -(Nat.ofDigitChars 10 digits 0 : Int) else Nat.ofDigitChars 10 digits 0) := by
  cases small <;> simp [exponent?, exponent, sign, naturalOf?_of_digits digits']

theorem parse?_of_decimal? {text : String} {negative : Bool} {d : Decimal} (whole : IsDigits digits)
    (signed : text.toList = minus negative ++ (digits ++ tail)) (read : decimal? (digits ++ tail) = some d) :
    parse? text = some (d.toBinary64 negative) := by
  rw [parse?, signed, sign_minus negative whole]
  dsimp only
  rw [read]

/-! Reading the layout of a decimal. -/

variable {x : Finite64} {magnitude : Int}

/-- The zeros and the point of a positional numeral do not change what its digits read as. -/
theorem readsAs_positional_iff (x : Finite64) (digits : List Char) (magnitude : Int) : (Decimal.mk
      (Nat.ofDigitChars 10 (wholePart digits magnitude ++ fractionPart digits magnitude) 0)
      (0 - (fractionPart digits magnitude).length)).ReadsAs x ↔
    (Decimal.mk (Nat.ofDigitChars 10 digits 0) (magnitude + 1 - digits.length)).ReadsAs x := by
  rw [wholePart, fractionPart]
  split
  · rename_i small
    have exponent : (0 - (magnitude.natAbs - 1 + digits.length : Nat) : Int) = magnitude + 1 - digits.length := by omega
    have zeros : Nat.ofDigitChars 10 ['0'] 0 = 0 := by decide
    rw [List.length_append, List.length_replicate, exponent, Nat.ofDigitChars_append, zeros, Nat.ofDigitChars_append,
      Nat.ofDigitChars_replicate_zero, Nat.mul_zero]
  · rename_i large
    obtain long | short := Nat.lt_or_ge (magnitude.toNat + 1) digits.length
    · have exponent : (0 - (digits.length - (magnitude.toNat + 1) : Nat) : Int) = magnitude + 1 - digits.length := by
        omega
      rw [Nat.sub_eq_zero_of_le (Nat.le_of_lt long), List.replicate_zero, List.append_nil, List.take_append_drop,
        List.length_drop, exponent]
    · have exponent :
          (0 - (0 : Nat) : Int) + (magnitude.toNat + 1 - digits.length : Nat) = magnitude + 1 - digits.length := by
        omega
      rw [List.drop_eq_nil_of_le short, List.take_of_length_le short, List.append_nil, Nat.ofDigitChars_append,
        Nat.ofDigitChars_replicate_zero, List.length_nil, Decimal.readsAs_shift_iff, exponent]

theorem isDigits_take_one (digits' : IsDigits digits) : IsDigits (digits.take 1) where
  nonempty := by
    rw [Ne, List.take_eq_nil_iff]
    exact not_or.mpr ⟨Nat.one_ne_zero, digits'.nonempty⟩
  digit c member := digits'.digit c (List.mem_of_mem_take member)

theorem decimal?_scientific (digits' : IsDigits digits) : decimal? (digits.take 1 ++
      (pointed (digits.drop 1) ++ exponent (decide (magnitude < 0)) (decimalDigits magnitude.natAbs))) =
    some ⟨Nat.ofDigitChars 10 digits 0, magnitude + 1 - digits.length⟩ := by
  have rest : ∀ c ∈ digits.drop 1, c.isDigit = true := fun c member => digits'.digit c (List.mem_of_mem_drop member)
  have length := List.length_pos_iff.mpr digits'.nonempty
  rw [decimal?_numeral (isDigits_take_one digits') rest (.inr rfl), exponent?_exponent (isDigits_decimalDigits _),
    ofDigitChars_decimalDigits, List.take_append_drop, List.length_drop, Option.map_some]
  congr 2
  simp only [decide_eq_true_eq]
  omega

theorem parse?_canonicalText (nonzero : x.isZero = false) : parse? (canonicalText (.finite x)) = some (.finite x) := by
  have shortest := Finite64.shortest_shortest .up nonzero
  have signed := toList_canonicalText nonzero rfl
  generalize x.shortest .up = d at shortest signed
  have reads := shortest.reads
  have positive := reads.coefficient_pos nonzero
  have value := ofDigitChars_decimalDigits d.coefficient
  have whole := isWhole_decimalDigits d.coefficient
  have fraction := isFraction_decimalDigits shortest.trimmed
  have first := head?_decimalDigits positive
  have exponent : d.magnitude + 1 - (decimalDigits d.coefficient).length = d.exponent := by
    rw [Decimal.magnitude]
    omega
  split at signed
  · have digits := (isWhole_wholePart whole first d.magnitude).toIsDigits
    have digits' := (isFraction_fractionPart fraction whole.nonempty d.magnitude).digit
    have decimal := decimal?_numeral digits digits' (.inl rfl : IsTail [])
    have same := readsAs_positional_iff x (decimalDigits d.coefficient) d.magnitude
    rw [value, exponent] at same
    rw [List.append_nil] at decimal
    rw [parse?_of_decimal? digits signed decimal, Decimal.toBinary64_of_readsAs (same.mpr reads) nonzero]
  · rw [parse?_of_decimal? (isDigits_take_one whole.toIsDigits) signed (decimal?_scientific whole.toIsDigits), value,
      exponent, Decimal.toBinary64_of_readsAs reads nonzero]

end Binary64

namespace Finite64

variable {x y : Finite64}

theorem eq_zero_of_isZero (zero : x.isZero = true) : x = .zero x.negative := by
  have none := isZero_iff_significand.mp zero
  obtain ⟨negative, significand, scale, _, normal, _⟩ := x
  obtain rfl : significand = 0 := none
  obtain rfl : scale = 0 := normal.resolve_right (by decide)
  rfl

theorem lowerEnd_lt (nonzero : x.isZero = false) : x.lowerEnd < x.quarters := by
  have step := Nat.two_pow_pos x.scale
  have positive : 0 < x.quarters := Nat.mul_pos (by decide) (units_pos nonzero)
  rw [lowerEnd]
  split <;> omega

theorem attracts_units (x : Finite64) : x.Attracts x.units one := by
  have value : 4 * one * x.units = x.quarters * one := by rw [quarters, Nat.mul_right_comm]
  have lower : x.within (x.lowerEnd * one) (x.quarters * one) = true := by
    cases zero : x.isZero with
    | true =>
      have even : x.significand % 2 = 0 := by rw [isZero_iff_significand.mp zero]
      exact (within_iff_of_even even).mpr (Nat.mul_le_mul_right one x.lowerEnd_le)
    | false => exact within_iff.mpr (.inl (Nat.mul_lt_mul_of_pos_right (lowerEnd_lt zero) one_pos))
  have upper := Nat.mul_lt_mul_of_pos_right x.lt_upperEnd one_pos
  refine ⟨?_, ?_⟩
  · rw [value]
    exact lower
  · rw [value]
    exact within_iff.mpr (.inl upper)

theorem nearest_units (x : Finite64) : Binary64.nearest x.negative x.units one = .finite x :=
  (Binary64.nearest_eq_finite_iff one_pos).mpr ⟨rfl, x.attracts_units⟩

theorem eq_of_signedUnits (nonzero : x.isZero = false) (same : x.signedUnits = y.signedUnits) : x = y := by
  have positive := units_pos nonzero
  have parts : x.negative = y.negative ∧ x.units = y.units := by
    rw [signedUnits, signedUnits] at same
    cases sign : x.negative <;> cases sign' : y.negative <;> simp [sign, sign'] at same ⊢ <;> omega
  have read := x.nearest_units
  rw [parts.1, parts.2, y.nearest_units] at read
  exact (Binary64.finite.inj read).symm

theorem units_eq_zero_iff : x.units = 0 ↔ x.isZero = true := by
  rw [units, Nat.mul_eq_zero, or_iff_left (Nat.ne_of_gt (Nat.two_pow_pos _)), isZero_iff_significand]

theorem isZero_iff : x.isZero = true ↔ x.signedUnits = 0 := by
  rw [← units_eq_zero_iff, signedUnits]
  split <;> omega

end Finite64

namespace Binary64

variable {x : Finite64} {text : String}

theorem parse?_zero : parse? "0" = some (.finite (.zero false)) := by decide

theorem parseCanonical?_eq_some (read : parseCanonical? text = some x) :
    parse? text = some (.finite x) ∧ canonicalText (.finite x) = text := by
  rw [parseCanonical?] at read
  split at read
  · rename_i y parsed
    split at read
    · rename_i same
      obtain rfl := Option.some.inj read
      exact ⟨parsed, same⟩
    · exact nomatch read
  · exact nomatch read

/-- What is read as canonical is the text of the number read; only the negative zero has no text of its own. -/
theorem parseCanonical?_eq_some_iff :
    parseCanonical? text = some x ↔ text = canonicalText (.finite x) ∧ x ≠ .zero true := by
  constructor
  · intro read
    obtain ⟨parsed, same⟩ := parseCanonical?_eq_some read
    refine ⟨same.symm, ?_⟩
    rintro rfl
    rw [← same, canonicalText_of_isZero rfl, parse?_zero] at parsed
    exact absurd parsed (by decide)
  · rintro ⟨rfl, sign⟩
    have parsed : parse? (canonicalText (.finite x)) = some (.finite x) := by
      cases zero : x.isZero with
      | true =>
        have form := Finite64.eq_zero_of_isZero zero
        have positive : x.negative = false := Bool.eq_false_iff.mpr fun negative => sign (by rw [form, negative])
        rw [canonicalText_of_isZero zero, parse?_zero, form, positive]
      | false => exact parse?_canonicalText zero
    rw [parseCanonical?, parsed]
    exact if_pos rfl

theorem exists_parseCanonical?_iff :
    (∃ x, parseCanonical? text = some x) ↔ ∃ x : Finite64, text = canonicalText (.finite x) := by
  constructor
  · rintro ⟨x, read⟩
    exact ⟨x, (parseCanonical?_eq_some_iff.mp read).1⟩
  · rintro ⟨x, rfl⟩
    by_cases negativeZero : x = .zero true
    · refine ⟨.zero false, parseCanonical?_eq_some_iff.mpr ⟨?_, by decide⟩⟩
      rw [negativeZero, canonicalText_of_isZero rfl, canonicalText_of_isZero rfl]
    · exact ⟨x, parseCanonical?_eq_some_iff.mpr ⟨rfl, negativeZero⟩⟩

/-- Numbers that are equal have one text. -/
theorem canonicalText_eq_of_signedUnits {y : Finite64} (same : x.signedUnits = y.signedUnits) :
    canonicalText (.finite x) = canonicalText (.finite y) := by
  cases zero : x.isZero with
  | true =>
    have zero' : y.isZero = true := Finite64.isZero_iff.mpr (same ▸ Finite64.isZero_iff.mp zero)
    rw [canonicalText_of_isZero zero, canonicalText_of_isZero zero']
  | false => rw [Finite64.eq_of_signedUnits zero same]

end Binary64
end Tenancy
