import Tenancy.Numeral.Binary64

/-! Decimal numbers with a coefficient of at most 96 bits and at most 28 places, and rounding to
fewer places with a half going away from zero. -/
namespace Tenancy

open scoped Powers

structure FixedPoint where
  negative : Bool
  coefficient : Nat
  places : Nat
deriving DecidableEq

namespace FixedPoint

def limit : Nat := 2 ^ (96 : Nat)

def maxPlaces : Nat := 28

/-- Divides by a power of two: a half is five tenths, and where the fivefold coefficient is too long
the last bit is lost instead. -/
def halve : Nat → Nat × Int → Nat × Int
  | 0, state => state
  | times + 1, (coefficient, exponent) =>
    if coefficient % 2 = 0 then halve times (coefficient / 2, exponent + 1)
    else if coefficient * 5 < limit then halve times (coefficient * 5, exponent)
    else halve times (coefficient / 2, exponent + 1)

/-- Multiplies by a power of two: while the coefficient is short by doubling it, then by taking ten
times a fifth. -/
def double : Nat → Nat × Int → Nat × Int
  | 0, state => state
  | times + 1, (coefficient, exponent) =>
    if coefficient * 2 < limit then double times (coefficient * 2, exponent - 1)
    else double times (coefficient / 5, exponent)

/-- Brings a positive exponent down to zero, if the coefficient stays short enough. -/
def settle? : Nat → Nat → Option Nat
  | 0, coefficient => some coefficient
  | times + 1, coefficient =>
    if coefficient * 10 < limit then settle? times (coefficient * 10) else none

/-- Drops places one by one, each time rounding a half up; nothing that is left has no places. -/
def shorten : Nat → Nat × Nat → Nat × Nat
  | 0, state => state
  | times + 1, (coefficient, places) =>
    let quotient := coefficient / 10
    if quotient = 0 then (0, 0)
    else shorten times (if 5 ≤ coefficient % 10 then quotient + 1 else quotient, places - 1)

/-- The decimal of a binary number, as exactly as the coefficient allows; none if it is too great.
-/
def ofFinite? (x : Finite64) : Option FixedPoint :=
  if x.isZero then some ⟨x.negative, 0, 0⟩
  else
    let power : Int := x.scale - 1074
    let (coefficient, exponent) :=
      if power < 0 then halve power.natAbs (x.significand, power)
      else double power.toNat (x.significand, power)
    if 0 < exponent then
      (settle? exponent.toNat coefficient).map fun coefficient => ⟨x.negative, coefficient, 0⟩
    else
      let (coefficient, places) :=
        shorten (exponent.natAbs - maxPlaces) (coefficient, exponent.natAbs)
      some ⟨x.negative, coefficient, places⟩

/-- Rounds to at most a number of places; a half goes away from zero. -/
def round (places : Nat) (d : FixedPoint) : FixedPoint :=
  if d.places ≤ places then d
  else
    let unit := 10 ^ (d.places - places)
    let coefficient := (2 * d.coefficient + unit) / (2 * unit)
    ⟨d.negative && coefficient != 0, coefficient, places⟩

def toBinary64 (d : FixedPoint) : Binary64 :=
  if d.coefficient = 0 then .zero d.negative
  else .nearest d.negative d.coefficient (10 ^ d.places)

end FixedPoint

/-- Rounds a number to decimal places; numbers too great for a fixed-point decimal have no fraction
to round. -/
def Finite64.roundToPlaces (places : Nat) (x : Finite64) : Binary64 :=
  match FixedPoint.ofFinite? x with
  | some d => (d.round places).toBinary64
  | none => .finite x

end Tenancy
