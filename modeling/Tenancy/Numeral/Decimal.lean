import Tenancy.Numeral.Binary64

/-! Decimal numerals: a coefficient times a power of ten, the digits of naturals, and the binary
number nearest to a numeral. -/
namespace Tenancy

open scoped Powers

/-- The digits of a natural, the highest first. -/
def decimalDigits (n : Nat) : List Char := Nat.toDigits 10 n

def decimalText (n : Nat) : String := String.ofList (decimalDigits n)

def integerText (i : Int) : String :=
  if i < 0 then "-" ++ decimalText i.natAbs else decimalText i.natAbs

/-- Digits with zeros before them up to a width. -/
def paddedText (width n : Nat) : String :=
  let digits := decimalDigits n
  String.ofList (List.replicate (width - digits.length) '0' ++ digits)

structure Decimal where
  coefficient : Nat
  exponent : Int
deriving DecidableEq

namespace Decimal

/-- The power of ten of the first digit. -/
def magnitude (d : Decimal) : Int := d.exponent + (decimalDigits d.coefficient).length - 1

/-- The nearest binary number. A numeral whose first digit is beyond every finite number is
infinite, and one below half the least number is zero, so no huge power is computed. -/
def toBinary64 (negative : Bool) (d : Decimal) : Binary64 :=
  if d.coefficient = 0 then .zero negative
  else if 310 < d.magnitude then .infinite negative
  else if d.magnitude < -330 then .zero negative
  else if 0 ≤ d.exponent then .nearest negative (d.coefficient * 10 ^ d.exponent.toNat) 1
  else .nearest negative d.coefficient (10 ^ d.exponent.natAbs)

end Decimal

/-- The value of a decimal digit, of the ten ASCII ones alone. -/
def asciiDigit? (c : Char) : Option Nat :=
  if '0' ≤ c ∧ c ≤ '9' then some (c.toNat - '0'.toNat) else none

def isAsciiDigit (c : Char) : Bool := (asciiDigit? c).isSome

/-- The natural written by ASCII digits, at least one. -/
def naturalOf? : List Char → Option Nat
  | [] => none
  | c :: rest => (c :: rest).foldlM (fun n d => (asciiDigit? d).map (10 * n + ·)) 0

/-- A natural as users write it: digits, with at most a plus sign before them. -/
def unsigned? (text : String) : Option Nat :=
  match text.toList with
  | '+' :: digits => naturalOf? digits
  | digits => naturalOf? digits

end Tenancy
