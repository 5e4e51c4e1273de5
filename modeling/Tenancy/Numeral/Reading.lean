import Tenancy.Numeral.Layout

/-! Reading binary numbers from text. The wide grammar allows signs, missing digits on one side of
the point, exponents and words for the values that are not finite; the canonical one allows each
finite number a single text. -/
namespace Tenancy.Binary64

/-- A sign, and the text after it. -/
def sign : List Char → Bool × List Char
  | '-' :: text => (true, text)
  | '+' :: text => (false, text)
  | text => (false, text)

def exponent? : List Char → Option Int
  | [] => some 0
  | c :: text =>
    if c = 'e' ∨ c = 'E' then
      match sign text with
      | (negative, digits) =>
        (naturalOf? digits).map fun n => if negative then -(n : Int) else n
    else none

/-- Digits with at most one point among them and at least one digit, then an exponent. -/
def decimal? (text : List Char) : Option Decimal :=
  let whole := text.takeWhile isAsciiDigit
  match text.dropWhile isAsciiDigit with
  | '.' :: rest =>
    let fraction := rest.takeWhile isAsciiDigit
    do
      let coefficient ← naturalOf? (whole ++ fraction)
      return ⟨coefficient, (← exponent? (rest.dropWhile isAsciiDigit)) - fraction.length⟩
  | rest => do return ⟨← naturalOf? whole, ← exponent? rest⟩

def word? (negative : Bool) (text : List Char) : Option Binary64 :=
  let lower := String.ofList (text.map Char.toLower)
  if lower = "inf" ∨ lower = "infinity" then some (.infinite negative)
  else if lower = "nan" then some .nan
  else none

/-- Reads the wide grammar. -/
def parse? (text : String) : Option Binary64 :=
  match sign text.toList with
  | (negative, rest) =>
    match decimal? rest with
    | some d => some (d.toBinary64 negative)
    | none => word? negative rest

/-- The one text of a number: no needless digits, and an exponent from `1e21` on and below `1e-6`.
-/
def canonicalLayout : NumberLayout where
  lowest := some (-6)
  highest := some 20
  wholeSuffix := ""
  signedZero := false
  tie := .up
  nan := "NaN"
  infinite := "Infinity"

def canonicalText (x : Binary64) : String := canonicalLayout.text x

/-- Reads canonical text of a finite number, and nothing else. -/
def parseCanonical? (text : String) : Option Finite64 :=
  match parse? text with
  | some (.finite x) => if canonicalText (.finite x) = text then some x else none
  | _ => none

end Tenancy.Binary64
