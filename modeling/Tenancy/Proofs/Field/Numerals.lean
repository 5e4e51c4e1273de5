import Tenancy.Proofs.Field.Truncation
import Tenancy.Proofs.Numeral.Integers

/-! Numbers that are given as texts. Fields of integers and of numbers read canonical numerals, one for each number;
an integer field reads the number nearest to an integer, and takes the text only if it is canonical for that
number. -/
namespace Tenancy

open scoped Powers

namespace Coerce

variable {field : String} {x : Finite64}

/-- A number that is an integer is kept, if 64 bits hold it. -/
theorem floorOf_eq_ok_iff {j : Int} (integral : x.signedUnits = j * Finite64.one) {k : Int64} :
    floorOf field (.finite x) = .ok k ↔ k.toInt = j := by
  rw [floorOf, Finite64.floor_eq integral]
  split
  · rename_i bounds
    rw [Except.ok.injEq, ← Int64.toInt_inj, Int64.toInt_ofInt_of_le bounds.1 bounds.2, eq_comm]
  · rename_i beyond
    refine iff_of_false nofun ?_
    rintro rfl
    exact beyond ⟨k.le_toInt, k.toInt_lt⟩

end Coerce

namespace FieldType

/-- The types whose fields read numbers from texts. -/
def IsNumeric : FieldType → Prop
  | .integer | .number _ => True
  | _ => False

variable {type : FieldType} {field s : String} {stored : Value}

theorem refuse_of_parseCanonical? (numeric : type.IsNumeric) (field : String)
    (none : Binary64.parseCanonical? s = none) : ∃ cause, type.coerce field (.string s) = refuse .format cause := by
  cases type with
  | integer =>
    refine ⟨.unreadable s "integer" field, ?_⟩
    rw [coerce, Coerce.toInteger, none]
    rfl
  | number places =>
    refine ⟨.unreadable s "number" field, ?_⟩
    rw [coerce, Coerce.toNumber, none]
    rfl
  | id | string | boolean | date | datetime | reference => exact numeric.elim

/-- What a numeric field takes from a text is the canonical text of a number. -/
theorem exists_canonicalText (numeric : type.IsNumeric) (taken : type.coerce field (.string s) = .ok stored) :
    ∃ x : Finite64, Binary64.parse? s = some (.finite x) ∧ Binary64.canonicalText (.finite x) = s := by
  cases read : Binary64.parseCanonical? s with
  | none =>
    obtain ⟨cause, refused⟩ := refuse_of_parseCanonical? numeric field read
    exact nomatch refused.symm.trans taken
  | some x => exact ⟨x, Binary64.parseCanonical?_eq_some read⟩

theorem canonical_of_coerce (numeric : type.IsNumeric) (taken : type.coerce field (.string s) = .ok stored) :
    Numeral.Canonical s.toList := by
  obtain ⟨x, -, rfl⟩ := exists_canonicalText numeric taken
  exact Binary64.canonical_canonicalText x

/-- A field of numbers takes just the canonical texts of numbers. -/
theorem exists_coerce_number_iff {places : Option UInt8} :
    (∃ stored, (number places).coerce field (.string s) = .ok stored) ↔
      ∃ x : Finite64, s = Binary64.canonicalText (.finite x) := by
  constructor
  · rintro ⟨stored, taken⟩
    have numeric : (number places).IsNumeric := trivial
    obtain ⟨x, -, same⟩ := exists_canonicalText numeric taken
    exact ⟨x, same.symm⟩
  · intro text
    obtain ⟨x, read⟩ := Binary64.exists_parseCanonical?_iff.mpr text
    refine ⟨_, map_eq_ok_iff.mpr ⟨x, ?_, rfl⟩⟩
    rw [Coerce.toNumber, read]

/-- Fields of integers and numbers take canonical numerals alone, and refuse every other text for its format. Two texts
that are taken are never read as one number. -/
theorem canonical_numerals (type : FieldType) (field : String) (numeric : type.IsNumeric) :
    (∀ s stored, type.coerce field (.string s) = .ok stored → Numeral.Canonical s.toList) ∧
      (∀ s, ¬ Numeral.Canonical s.toList → ∃ cause, type.coerce field (.string s) = refuse .format cause) ∧
      (∃ cause, type.coerce field (.string "-0") = refuse .format cause) ∧
      ∀ (type' : FieldType) (field' s s' : String) (stored stored' : Value) (x x' : Binary64), type'.IsNumeric →
        type.coerce field (.string s) = .ok stored → type'.coerce field' (.string s') = .ok stored' →
        Binary64.parse? s = some x → Binary64.parse? s' = some x' → x.beq x' = true → s = s' := by
  refine ⟨fun s stored taken => canonical_of_coerce numeric taken, fun s other => ?_, ?_, ?_⟩
  · cases read : Binary64.parseCanonical? s with
    | none => exact refuse_of_parseCanonical? numeric field read
    | some x =>
      obtain ⟨-, rfl⟩ := Binary64.parseCanonical?_eq_some read
      exact absurd (Binary64.canonical_canonicalText x) other
  · exact refuse_of_parseCanonical? numeric field (by decide +kernel)
  · intro type' field' s s' stored stored' x x' numeric' taken taken' parsed parsed' same
    obtain ⟨y, read, rfl⟩ := exists_canonicalText numeric taken
    obtain ⟨y', read', rfl⟩ := exists_canonicalText numeric' taken'
    obtain rfl := Option.some.inj (read.symm.trans parsed)
    obtain rfl := Option.some.inj (read'.symm.trans parsed')
    exact Binary64.canonicalText_eq_of_signedUnits (beq_iff_eq.mp same)

/-- One half has a text that is taken, and no second one. A sign before a positive number is not canonical. -/
theorem canonical_numerals_of_half :
    (∃ stored, (number none).coerce "size" (.string "0.5") = .ok stored) ∧ Numeral.Canonical "0.5".toList ∧
    (∃ cause, (number none).coerce "size" (.string "+1") = refuse .format cause) ∧
    (∃ cause, (number none).coerce "size" (.string "-0") = refuse .format cause) ∧
    ∀ s stored x, integer.coerce "count" (.string s) = .ok stored → Binary64.parse? s = some x →
      (Binary64.nearest false 1 2).beq x = true → "0.5" = s := by
  obtain ⟨canonical, refused, minusZero, unique⟩ := canonical_numerals (number none) "size" trivial
  have half : Binary64.parse? "0.5" = some (.nearest false 1 2) := by decide +kernel
  have read : ∃ x, Binary64.parseCanonical? "0.5" = some x := Option.isSome_iff_exists.mp (by decide +kernel)
  have accepted : ∃ stored, (number none).coerce "size" (.string "0.5") = .ok stored :=
    exists_coerce_number_iff.mpr (Binary64.exists_parseCanonical?_iff.mp read)
  obtain ⟨stored, taken⟩ := accepted
  refine ⟨⟨stored, taken⟩, canonical _ _ taken, refused "+1" fun plus => ?_, minusZero,
    fun s stored' x taken' read' same => ?_⟩
  · obtain ⟨c, first, sign⟩ := plus.first
    obtain rfl : '+' = c := Option.some.inj first
    exact absurd sign (by decide)
  · exact unique integer "count" _ _ stored stored' _ x trivial taken taken' half read' same

theorem natAbs_toInt_lt (i : Int64) : i.toInt.natAbs < 2 ^ (64 : Nat) := by
  have low := i.le_toInt
  have high := i.toInt_lt
  omega

/-- The text of an integer is taken for the number nearest to it, if that has the same text and 64 bits hold it. -/
theorem coerce_integerText_iff {i : Int64} {x : Finite64} (nearest : Binary64.ofInt i.toInt = .finite x) :
    integer.coerce field (.string (integerText i.toInt)) = .ok stored ↔
      Binary64.canonicalText (.finite x) = integerText i.toInt ∧
        ∃ j : Int64, x.signedUnits = j.toInt * Finite64.one ∧ stored = .integer j := by
  obtain ⟨-, attracts⟩ := Binary64.ofInt_eq_finite_iff.mp nearest
  obtain ⟨j, integral⟩ := Finite64.exists_signedUnits_eq attracts
  rw [coerce, Coerce.toInteger, Binary64.parseCanonical?, Binary64.parse?_integerText (natAbs_toInt_lt i), nearest]
  dsimp only
  by_cases canonical : Binary64.canonicalText (.finite x) = integerText i.toInt
  · rw [if_pos canonical, map_eq_ok_iff, and_iff_right canonical]
    constructor
    · rintro ⟨k, kept, rfl⟩
      exact ⟨k, (Coerce.floorOf_eq_ok_iff integral).mp kept ▸ integral, rfl⟩
    · rintro ⟨k, value, rfl⟩
      have same := (Finite64.signedUnits_inj integral).mp value
      exact ⟨k, (Coerce.floorOf_eq_ok_iff integral).mpr same.symm, rfl⟩
  · rw [if_neg canonical]
    refine iff_of_false (fun taken => ?_) fun taken => canonical taken.1
    cases taken

/-- A field of integers takes the text of an integer only if it is canonical for the number nearest to the integer, and
keeps this number. It is the integer itself just when that has at most 53 bits before its zeros, and below 53 bits
the text is always taken. -/
theorem integer_of_text (field : String) (i : Int64) : ∃ x : Finite64, Binary64.ofInt i.toInt = .finite x ∧
    x.IsNearest i.toInt ∧
    (∀ stored, integer.coerce field (.string (integerText i.toInt)) = .ok stored ↔
      Binary64.canonicalText (.finite x) = integerText i.toInt ∧
        ∃ j : Int64, x.signedUnits = j.toInt * Finite64.one ∧ stored = .integer j) ∧
    (∀ j : Int64, x.signedUnits = j.toInt * Finite64.one → (j = i ↔ Finite64.IsShort i.toInt.natAbs)) ∧
    (i.toInt.natAbs < 2 ^ (53 : Nat) → integer.coerce field (.string (integerText i.toInt)) = .ok (.integer i)) := by
  obtain ⟨x, nearest⟩ := Binary64.exists_ofInt_eq_finite (natAbs_toInt_lt i)
  obtain ⟨sign, attracts⟩ := Binary64.ofInt_eq_finite_iff.mp nearest
  refine ⟨x, nearest, Binary64.isNearest_of_ofInt nearest, fun stored => coerce_integerText_iff nearest,
    fun j value => ?_, fun small => ?_⟩
  · rw [← Finite64.signedUnits_eq_iff sign attracts, Finite64.signedUnits_inj value, Int64.toInt_inj]
  · have value := (Finite64.signedUnits_eq_iff sign attracts).mpr ⟨_, 0, small, (Nat.mul_one _).symm⟩
    exact (coerce_integerText_iff nearest).mpr ⟨Binary64.canonicalText_of_lt small nearest, i, value, rfl⟩

/-- An age is kept, and of nineteen digits the number that they are read as. -/
theorem integer_of_text_of_digits :
    integer.coerce "age" (.string (integerText (42 : Int64).toInt)) = .ok (.integer 42) ∧
      integer.coerce "age" (.string (integerText (4611686018427388000 : Int64).toInt)) =
        .ok (.integer 4611686018427387904) := by
  obtain ⟨-, -, -, -, -, small⟩ := integer_of_text "age" 42
  obtain ⟨x, nearest, -, taken, -⟩ := integer_of_text "age" 4611686018427388000
  have rounded : Binary64.ofInt (4611686018427388000 : Int64).toInt =
      .finite ⟨false, 2 ^ (52 : Nat), 1084, by decide, by decide, by decide⟩ := by decide +kernel
  obtain rfl := Binary64.finite.inj (rounded.symm.trans nearest)
  exact ⟨small (by decide), (taken _).mpr ⟨by decide +kernel, 4611686018427387904, by decide +kernel, rfl⟩⟩

/-- Nineteen digits whose zeros stand for lost ones: the number that they are the shortest text of is 96 less. -/
theorem integer_text_rounded :
    integer.coerce "age" (.string "4611686018427388000") = .ok (.integer 4611686018427387904) ∧
      ¬ ∀ (field : String) (i : Int64) (stored : Value),
        integer.coerce field (.string (integerText i.toInt)) = .ok stored → stored = .integer i := by
  have read : Binary64.parseCanonical? "4611686018427388000" =
      some ⟨false, 2 ^ (52 : Nat), 1084, by decide, by decide, by decide⟩ := by decide +kernel
  have taken (field : String) :
      integer.coerce field (.string "4611686018427388000") = .ok (.integer 4611686018427387904) := by
    rw [coerce, Coerce.toInteger, read]
    refine map_eq_ok_iff.mpr ⟨_, (Coerce.floorOf_eq_ok_iff (j := 4611686018427387904) ?_).mpr rfl, rfl⟩
    decide +kernel
  refine ⟨taken "age", fun kept => ?_⟩
  have text : integerText (4611686018427388000 : Int64).toInt = "4611686018427388000" := by decide +kernel
  have same := kept "age" 4611686018427388000 _ (text ▸ taken "age")
  exact absurd (Value.integer.inj same) (by decide)

end FieldType
end Tenancy
