import Tenancy.Json.Basic
import Tenancy.Text.Basic

/-! Reading JSON text. Members keep their order and repeated members are kept. A number with
neither point nor exponent is an integer when 64 bits can hold it, and every other number is the
nearest binary fraction. -/
namespace Tenancy.Json

open scoped Powers

/-- A successful step of the reader: what was read, and the text after it. -/
abbrev Read (α : Type) := Option (α × List Char)

namespace Reader

def isBlank (c : Char) : Bool := c = ' ' || c = '\n' || c = '\t' || c = '\r'

def skipBlanks (text : List Char) : List Char := text.dropWhile isBlank

/-- Consumes a given word. -/
def word (expected text : List Char) : Option (List Char) :=
  if expected.isPrefixOf text then some (text.drop expected.length) else none

def unit? (a b c d : Char) : Option Nat := do
  return ((← hexValue? a) * 16 + (← hexValue? b)) * 256 + ((← hexValue? c) * 16 + (← hexValue? d))

/-- The character of one unit, or of a high unit and the low unit after it. -/
def escapedUnit? (unit : Nat) (text : List Char) : Read Char :=
  if 0xD800 ≤ unit ∧ unit < 0xDC00 then
    match text with
    | '\\' :: 'u' :: a :: b :: c :: d :: rest =>
      match unit? a b c d with
      | some low =>
        if 0xDC00 ≤ low ∧ low < 0xE000 then
          some (Char.ofNat (0x10000 + (unit - 0xD800) * 0x400 + (low - 0xDC00)), rest)
        else none
      | none => none
    | _ => none
  else if 0xDC00 ≤ unit ∧ unit < 0xE000 then none
  else some (Char.ofNat unit, text)

def simpleEscape? (c : Char) : Option Char :=
  if c = '"' ∨ c = '\\' ∨ c = '/' then some c
  else if c = 'b' then some '\x08'
  else if c = 'f' then some '\x0c'
  else if c = 'n' then some '\n'
  else if c = 'r' then some '\r'
  else if c = 't' then some '\t'
  else none

/-- One character of a string, escaped or not. -/
def stringChar? : List Char → Read Char
  | '\\' :: 'u' :: a :: b :: c :: d :: rest => (unit? a b c d).bind (escapedUnit? · rest)
  | '\\' :: c :: rest => (simpleEscape? c).map (·, rest)
  | c :: rest => if c.toNat < 32 ∨ c = '"' ∨ c = '\\' then none else some (c, rest)
  | [] => none

/-- The rest of a string after its opening quote. The fuel bounds the number of characters. -/
def stringBody : Nat → List Char → List Char → Read String
  | _, reversed, '"' :: rest => some (String.ofList reversed.reverse, rest)
  | 0, _, _ => none
  | fuel + 1, reversed, text =>
    match stringChar? text with
    | some (c, rest) => stringBody fuel (c :: reversed) rest
    | none => none

def string? : List Char → Read String
  | '"' :: rest => stringBody rest.length [] rest
  | _ => none

/-- The parts of a number token. -/
structure NumberToken where
  negative : Bool
  whole : List Char
  fraction : Option (List Char)
  exponent : Option Int

def digits (text : List Char) : List Char × List Char :=
  (text.takeWhile isAsciiDigit, text.dropWhile isAsciiDigit)

/-- Digits without a needless zero before them. -/
def whole? (text : List Char) : Read (List Char) :=
  match digits text with
  | ([], _) => none
  | ('0' :: _ :: _, _) => none
  | read => some read

def fraction? : List Char → Read (Option (List Char))
  | '.' :: rest =>
    match digits rest with
    | ([], _) => none
    | (fraction, rest) => some (some fraction, rest)
  | text => some (none, text)

def signedDigits? (negative : Bool) (text : List Char) : Read (Option Int) :=
  let (read, rest) := digits text
  (naturalOf? read).map fun n => (some (if negative then -(n : Int) else n), rest)

def exponent? : List Char → Read (Option Int)
  | c :: rest =>
    if c = 'e' ∨ c = 'E' then
      match rest with
      | '+' :: rest => signedDigits? false rest
      | '-' :: rest => signedDigits? true rest
      | _ => signedDigits? false rest
    else some (none, c :: rest)
  | [] => some (none, [])

def unsignedToken? (negative : Bool) (text : List Char) : Option (NumberToken × List Char) := do
  let (whole, text) ← whole? text
  let (fraction, text) ← fraction? text
  let (exponent, text) ← exponent? text
  return (⟨negative, whole, fraction, exponent⟩, text)

def token? : List Char → Read NumberToken
  | '-' :: rest => unsignedToken? true rest
  | text => unsignedToken? false text

namespace NumberToken

def decimal (token : NumberToken) : Decimal :=
  let fraction := token.fraction.getD []
  ⟨(naturalOf? (token.whole ++ fraction)).getD 0, token.exponent.getD 0 - fraction.length⟩

def isInteger (token : NumberToken) : Bool := token.fraction.isNone && token.exponent.isNone

/-- The integer of a token; the negative zero is a fraction. -/
def integer? (token : NumberToken) : Option Int :=
  let n := token.decimal.coefficient
  if !token.isInteger then none
  else if token.negative then if 0 < n ∧ n ≤ 2 ^ (63 : Nat) then some (-(n : Int)) else none
  else if n < 2 ^ (64 : Nat) then some n else none

/-- The number of a token, unless it is beyond every finite one. -/
def number? (token : NumberToken) : Option Number :=
  match token.integer? with
  | some i => some (.integer i)
  | none =>
    match token.decimal.toBinary64 token.negative with
    | .finite x => some (.fraction x)
    | _ => none

end NumberToken

def number? (text : List Char) : Option (Json × List Char) := do
  let (token, rest) ← token? text
  return (.number (← token.number?), rest)

/-! The fuel of the next functions bounds the values still to be read, and the depth the arrays and
objects that may still be opened. -/
mutual

def value : Nat → Nat → List Char → Read Json
  | 0, _, _ => none
  | fuel + 1, depth, text =>
    match skipBlanks text with
    | '"' :: rest => (string? ('"' :: rest)).map fun read => (.string read.1, read.2)
    | '[' :: rest =>
      match depth with
      | 0 => none
      | depth + 1 =>
        match skipBlanks rest with
        | ']' :: rest => some (.array [], rest)
        | rest => (items fuel depth rest).map fun read => (.array read.1, read.2)
    | '\x7b' :: rest =>
      match depth with
      | 0 => none
      | depth + 1 =>
        match skipBlanks rest with
        | '\x7d' :: rest => some (.object [], rest)
        | rest => (members fuel depth rest).map fun read => (.object read.1, read.2)
    | 'n' :: rest => (word "ull".toList rest).map (.null, ·)
    | 't' :: rest => (word "rue".toList rest).map (.bool true, ·)
    | 'f' :: rest => (word "alse".toList rest).map (.bool false, ·)
    | rest => number? rest

def items : Nat → Nat → List Char → Read (List Json)
  | 0, _, _ => none
  | fuel + 1, depth, text =>
    match value fuel depth text with
    | none => none
    | some (item, rest) =>
      match skipBlanks rest with
      | ']' :: rest => some ([item], rest)
      | ',' :: rest => (items fuel depth rest).map fun read => (item :: read.1, read.2)
      | _ => none

def members : Nat → Nat → List Char → Read (List (String × Json))
  | 0, _, _ => none
  | fuel + 1, depth, text =>
    match string? (skipBlanks text) with
    | none => none
    | some (key, rest) =>
      match skipBlanks rest with
      | ':' :: rest =>
        match value fuel depth rest with
        | none => none
        | some (item, rest) =>
          match skipBlanks rest with
          | '\x7d' :: rest => some ([(key, item)], rest)
          | ',' :: rest => (members fuel depth rest).map fun read => ((key, item) :: read.1, read.2)
          | _ => none
      | _ => none

end

end Reader

/-- Nested arrays and objects deeper than this are refused. -/
def maxDepth : Nat := 127

/-- Reads a text that holds one value and nothing after it but blanks. -/
def parse? (text : String) : Option Json :=
  let chars := text.toList
  match Reader.value (2 * chars.length + 2) maxDepth chars with
  | some (json, rest) => if (Reader.skipBlanks rest).isEmpty then some json else none
  | none => none

end Tenancy.Json
