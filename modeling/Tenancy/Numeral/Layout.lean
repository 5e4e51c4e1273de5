import Tenancy.Numeral.Shortest

/-! The text of a binary number: its shortest digits laid out with a point, or with an exponent
outside a range of magnitudes. -/
namespace Tenancy

/-- What a text format decides about numbers. -/
structure NumberLayout where
  /-- Magnitudes outside these bounds are written with an exponent. -/
  lowest : Option Int
  highest : Option Int
  /-- What follows a number without a fraction in positional form. -/
  wholeSuffix : String
  signedZero : Bool
  tie : Tie
  nan : String
  infinite : String

namespace NumberLayout

def isPositional (layout : NumberLayout) (magnitude : Int) : Bool :=
  layout.lowest.all (· ≤ magnitude) && layout.highest.all (magnitude ≤ ·)

/-- Positional form of digits, the first of which has the given magnitude. -/
def positional (layout : NumberLayout) (digits : List Char) (magnitude : Int) : String :=
  if magnitude < 0 then
    "0." ++ String.ofList (List.replicate (magnitude.natAbs - 1) '0' ++ digits)
  else
    let width := magnitude.toNat + 1
    if digits.length ≤ width then
      String.ofList (digits ++ List.replicate (width - digits.length) '0') ++ layout.wholeSuffix
    else String.ofList (digits.take width) ++ "." ++ String.ofList (digits.drop width)

/-- One digit, the rest after a point, and a signed exponent. -/
def scientific (digits : List Char) (magnitude : Int) : String :=
  let fraction := digits.drop 1
  String.ofList (digits.take 1) ++ (if fraction.isEmpty then "" else "." ++ String.ofList fraction)
    ++ (if magnitude < 0 then "e-" else "e+") ++ decimalText magnitude.natAbs

def finiteText (layout : NumberLayout) (x : Finite64) : String :=
  let shortest := x.shortest layout.tie
  let digits := decimalDigits shortest.coefficient
  let sign := if x.negative && (layout.signedZero || !x.isZero) then "-" else ""
  sign ++ if layout.isPositional shortest.magnitude then layout.positional digits shortest.magnitude
    else scientific digits shortest.magnitude

def text (layout : NumberLayout) : Binary64 → String
  | .nan => layout.nan
  | .infinite negative => (if negative then "-" else "") ++ layout.infinite
  | .finite x => layout.finiteText x

end NumberLayout
end Tenancy
