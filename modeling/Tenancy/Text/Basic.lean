/-! Texts in parts, their digits, and sets of characters. -/
namespace Tenancy

/-! Separators between the parts of a text. -/

namespace Text

def joined (separator : String) : List String → String
  | [] => ""
  | [text] => text
  | text :: rest => text ++ separator ++ joined separator rest

def commaSeparated (texts : List String) : String := joined ", " texts

theorem joined_eq_intercalate (separator : String) (texts : List String) :
    joined separator texts = separator.intercalate texts := by
  induction texts with
  | nil => rfl
  | cons first rest ih =>
    cases rest with
    | nil => simp [joined]
    | cons second rest => rw [joined, ih, String.intercalate_cons_cons]; simp

end Text

/-- The text before and after the first separator. -/
def splitFirst? (separator : Char) (text : List Char) : Option (List Char × List Char) :=
  match text.dropWhile (· ≠ separator) with
  | [] => none
  | _ :: rest => some (text.takeWhile (· ≠ separator), rest)

/-- The text before and after the last separator. -/
def splitLast? (separator : Char) (text : List Char) : Option (List Char × List Char) :=
  (splitFirst? separator text.reverse).map fun parts => (parts.2.reverse, parts.1.reverse)

/-- The part of a text before its first separator, and the parts after it. -/
def firstPart (isSeparator : Char → Bool) : List Char → List Char × List (List Char)
  | [] => ([], [])
  | c :: rest =>
    match firstPart isSeparator rest with
    | (part, later) => if isSeparator c then ([], part :: later) else (c :: part, later)

/-- The parts of a text, one more than it has separators. -/
def splitAll (isSeparator : Char → Bool) (text : List Char) : List (List Char) :=
  (firstPart isSeparator text).1 :: (firstPart isSeparator text).2

/-! Decimal digits of every script. Each script has its ten digits in a row, zero first. -/

/-- The zeros of the scripts, in ascending order. -/
def digitZeros : List Nat := [
  0x0030, 0x0660, 0x06F0, 0x07C0, 0x0966, 0x09E6, 0x0A66, 0x0AE6, 0x0B66, 0x0BE6, 0x0C66,
  0x0CE6, 0x0D66, 0x0DE6, 0x0E50, 0x0ED0, 0x0F20, 0x1040, 0x1090, 0x17E0, 0x1810, 0x1946,
  0x19D0, 0x1A80, 0x1A90, 0x1B50, 0x1BB0, 0x1C40, 0x1C50, 0xA620, 0xA8D0, 0xA900, 0xA9D0,
  0xA9F0, 0xAA50, 0xABF0, 0xFF10, 0x104A0, 0x10D30, 0x10D40, 0x11066, 0x110F0, 0x11136, 0x111D0,
  0x112F0, 0x11450, 0x114D0, 0x11650, 0x116C0, 0x116D0, 0x116DA, 0x11730, 0x118E0, 0x11950,
  0x11BF0, 0x11C50, 0x11D50, 0x11DA0, 0x11F50, 0x16130, 0x16A60, 0x16AC0, 0x16B50, 0x16D70,
  0x1CCF0, 0x1D7CE, 0x1D7D8, 0x1D7E2, 0x1D7EC, 0x1D7F6, 0x1E140, 0x1E2F0, 0x1E4F0, 0x1E5F1,
  0x1E950, 0x1FBF0]

def isDecimalDigit (c : Char) : Bool :=
  digitZeros.any fun start => start ≤ c.toNat && c.toNat < start + 10

/-! Hexadecimal digits. They are written in lower case and read in either. -/

/-- The digit of a number below sixteen. -/
def hexDigit (n : Nat) : Char :=
  if n < 10 then Char.ofNat ('0'.toNat + n) else Char.ofNat ('a'.toNat + (n - 10))

/-- A number in as few digits as it needs. -/
def hexText (n : Nat) : List Char := Nat.toDigits 16 n

def hexValue? (c : Char) : Option Nat :=
  if '0' ≤ c ∧ c ≤ '9' then some (c.toNat - '0'.toNat)
  else if 'a' ≤ c ∧ c ≤ 'f' then some (c.toNat - 'a'.toNat + 10)
  else if 'A' ≤ c ∧ c ≤ 'F' then some (c.toNat - 'A'.toNat + 10)
  else none

/-- The natural written by digits of a base up to sixteen. No digits at all are a zero. -/
def naturalIn? (base : Nat) (digits : List Char) : Option Nat :=
  digits.foldlM (fun n c => (hexValue? c).bind fun d =>
    if d < base then some (base * n + d) else none) 0

/-! Sets of characters, written as ranges of code points. -/

def inRanges (ranges : List (Nat × Nat)) (c : Char) : Bool :=
  ranges.any fun (first, last) => first ≤ c.toNat && c.toNat ≤ last

end Tenancy
