/-! Binary floating-point numbers of 64 bits, held exactly: a finite number is an integer count of
units of `2 ^ -1074`. Every quotient of naturals has one nearest such number, ties going to the
even significand. -/
namespace Tenancy

namespace Powers

/-- Where this scope is open, powers are those of the core library and not the ones of monoids. A numeral in
an exponent has its type written out, for without it the power of a monoid is taken by default. -/
scoped instance (priority := high) corePow {α : Type} [NatPow α] : Pow α Nat := instPowNat

end Powers

open scoped Powers

/-- A finite number, in its one form: the significand has 53 bits unless the scale is zero. -/
structure Finite64 where
  negative : Bool
  significand : Nat
  scale : Nat
  significand_lt : significand < 2 ^ (53 : Nat)
  normal : scale = 0 ∨ 2 ^ (52 : Nat) ≤ significand
  scale_le : scale ≤ 2045
deriving DecidableEq

namespace Finite64

/-- The number of units in one. -/
def one : Nat := 2 ^ (1074 : Nat)

def units (x : Finite64) : Nat := x.significand * 2 ^ x.scale

def signedUnits (x : Finite64) : Int := if x.negative then -(x.units : Int) else x.units

def isZero (x : Finite64) : Bool := x.significand == 0

def isIntegral (x : Finite64) : Bool := x.units % one == 0

/-- The greatest integer that is not above the number. -/
def floor (x : Finite64) : Int := x.signedUnits / (one : Int)

def zero (negative : Bool) : Finite64 := ⟨negative, 0, 0, by decide, .inl rfl, by decide⟩

end Finite64

inductive Binary64 where
  | nan
  | infinite (negative : Bool)
  | finite (x : Finite64)
deriving DecidableEq

namespace Binary64

def isFinite : Binary64 → Bool
  | .finite _ => true
  | _ => false

def zero (negative : Bool) : Binary64 := .finite (.zero negative)

/-- Parts that no finite number has stand for an overflow. -/
def ofParts (negative : Bool) (significand scale : Nat) : Binary64 :=
  if h : significand < 2 ^ (53 : Nat) ∧ (scale = 0 ∨ 2 ^ (52 : Nat) ≤ significand) ∧ scale ≤ 2045 then
    .finite ⟨negative, significand, scale, h.1, h.2.1, h.2.2⟩
  else .infinite negative

/-- The integer nearest to a quotient; a half goes to the even neighbour. -/
def roundHalfEven (numerator denominator : Nat) : Nat :=
  let quotient := numerator / denominator
  let twice := 2 * (numerator % denominator)
  if twice < denominator then quotient
  else if denominator < twice then quotient + 1
  else quotient + quotient % 2

/-- The number nearest to a quotient. The scale is the least at which the quotient keeps 53 bits;
rounding may still carry into the next binade. -/
def nearest (negative : Bool) (numerator denominator : Nat) : Binary64 :=
  let units := numerator * Finite64.one
  let scale := (units / denominator).log2 - 52
  let significand := roundHalfEven units (denominator * 2 ^ scale)
  if significand = 2 ^ (53 : Nat) then ofParts negative (2 ^ (52 : Nat)) (scale + 1)
  else ofParts negative significand scale

def ofInt (i : Int) : Binary64 := nearest (decide (i < 0)) i.natAbs 1

/-- Numeric equality: the two zeros are equal, and NaN differs from itself. -/
def beq : Binary64 → Binary64 → Bool
  | .finite x, .finite y => x.signedUnits == y.signedUnits
  | .infinite a, .infinite b => a == b
  | _, _ => false

end Binary64
end Tenancy
