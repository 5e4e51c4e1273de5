import Tenancy.Numeral.Decimal
import Tenancy.Numeral.Layout
import Tenancy.Text.Basic

/-! Network addresses of four bytes. The strict form has four decimal numbers; a host name may also
have fewer numbers, octal ones and hexadecimal ones, and the last fills the bytes still free. -/
namespace Tenancy

open scoped Powers

structure Ipv4 where
  value : UInt32
deriving DecidableEq

namespace Ipv4

def octets (address : Ipv4) : List Nat :=
  [24, 16, 8, 0].map fun (shift : Nat) => address.value.toNat / 2 ^ shift % 256

def text (address : Ipv4) : String := Text.joined "." (address.octets.map decimalText)

/-- An address from its first bytes, at most three, and the number that the others make up. -/
def ofParts? (front : List Nat) (last : Nat) : Option Ipv4 :=
  let room := 256 ^ (4 - front.length)
  if front.length < 4 ∧ front.all (· < 256) ∧ last < room then
    some ⟨UInt32.ofNat (front.foldl (fun n byte => 256 * n + byte) 0 * room + last)⟩
  else none

/-- A byte in decimal digits, without a needless zero before them. -/
def octet? : List Char → Option Nat
  | '0' :: _ :: _ => none
  | digits => (naturalOf? digits).filter (· < 256)

/-- Reads the strict form. -/
def ofDotted? (text : List Char) : Option Ipv4 := do
  match ← (splitAll (· = '.') text).mapM octet? with
  | [a, b, c, d] => ofParts? [a, b, c] d
  | _ => none

/-- The labels of a host name. A dot at its end adds none. -/
def labels (name : List Char) : List (List Char) :=
  let parts := splitAll (· = '.') name
  if parts.getLast? = some [] then parts.dropLast else parts

def number? : List Char → Option Nat
  | '0' :: 'x' :: digits => naturalIn? 16 digits
  | '0' :: digit :: digits => naturalIn? 8 (digit :: digits)
  | digits => naturalOf? digits

def isNumeric (label : List Char) : Bool :=
  (number? label).isSome || (!label.isEmpty && label.all isAsciiDigit)

/-- Whether a host name must be an address: its last label is a number. -/
def isMeantBy (name : List Char) : Bool := (labels name).getLast?.any isNumeric

/-- Reads a host name of lower case as an address. -/
def ofName? (name : List Char) : Option Ipv4 := do
  let numbers ← (labels name).mapM number?
  ofParts? numbers.dropLast (← numbers.getLast?)

end Ipv4
end Tenancy
