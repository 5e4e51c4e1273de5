import Tenancy.Numeral.Decimal

/-! The fewest decimal digits that read back as a given binary number, and of those the nearest.
A grid of decimals is tried for each number of digits; only the two neighbours of the number on
that grid can be its nearest points. -/
namespace Tenancy

open scoped Powers

/-- Where a number exactly between its two neighbours goes. -/
inductive Tie where
  | up
  | even
deriving DecidableEq

namespace Finite64

/-! All magnitudes below are in quarters of a unit, so that both ends of the interval of reals that
round to the number are whole. -/

def quarters (x : Finite64) : Nat := 4 * x.units

/-- Below a power of two the numbers lie twice as close. -/
def lowerEnd (x : Finite64) : Nat :=
  x.quarters - if x.significand = 2 ^ (52 : Nat) ∧ 0 < x.scale then 2 ^ x.scale else 2 * 2 ^ x.scale

def upperEnd (x : Finite64) : Nat := x.quarters + 2 * 2 ^ x.scale

/-- An end of the interval rounds to the number itself just when its significand is even. -/
def within (x : Finite64) (low high : Nat) : Bool :=
  if x.significand % 2 = 0 then low ≤ high else low < high

/-- The power of ten of the first digit of a number that is not zero. -/
def magnitude (x : Finite64) : Int :=
  if one ≤ x.units then (decimalDigits (x.units / one)).length - 1
  else -((decimalDigits ((one + x.units - 1) / x.units - 1)).length : Int)

/-- The neighbour on the grid of multiples of `10 ^ power` that reads back, the nearer of two. -/
def neighbour? (tie : Tie) (x : Finite64) (power : Int) : Option Nat :=
  let up := 10 ^ (-power).toNat
  let grid := 4 * one * 10 ^ power.toNat
  let value := x.quarters * up
  let below := value / grid
  let above := below + 1
  let lowHits := x.within (x.lowerEnd * up) (below * grid)
  let highHits := x.within (above * grid) (x.upperEnd * up)
  match lowHits, highHits with
  | false, false => none
  | true, false => some below
  | false, true => some above
  | true, true =>
    if 2 * value < (below + above) * grid then some below
    else if (below + above) * grid < 2 * value then some above
    else match tie with
      | .up => some above
      | .even => some (if below % 2 = 0 then below else above)

/-- Ten units of a grid are one of the next. -/
def carry (d : Decimal) : Decimal :=
  if d.coefficient % 10 = 0 then ⟨d.coefficient / 10, d.exponent + 1⟩ else d

/-- Tries one grid after the other; seventeen digits always read back. -/
def shortestFrom (tie : Tie) (x : Finite64) : Nat → Int → Decimal
  | 0, power => ⟨x.quarters * 10 ^ (-power).toNat / (4 * one * 10 ^ power.toNat), power⟩
  | tries + 1, power =>
    match x.neighbour? tie power with
    | some coefficient => carry ⟨coefficient, power⟩
    | none => shortestFrom tie x tries (power - 1)

def shortest (tie : Tie) (x : Finite64) : Decimal :=
  if x.isZero then ⟨0, 0⟩ else shortestFrom tie x 17 x.magnitude

end Finite64
end Tenancy
