import Tenancy.Text.Basic

/-! Bytes of text. A character is a lead byte and as many tail bytes as the lead byte announces,
each in a range of its own, so that every character has one sequence and surrogates have none. A percent
escape writes one byte as a percent sign and two hexadecimal digits. -/
namespace Tenancy

namespace Utf8

def encode (text : List Char) : List UInt8 := text.flatMap String.utf8EncodeChar

/-- The ranges of the bytes that may follow a lead byte, or nothing for a byte that leads none. -/
def tailRanges? (lead : Nat) : Option (List (Nat × Nat)) :=
  if lead < 0x80 then some []
  else if lead < 0xC2 then none
  else if lead < 0xE0 then some [(0x80, 0xBF)]
  else if lead = 0xE0 then some [(0xA0, 0xBF), (0x80, 0xBF)]
  else if lead = 0xED then some [(0x80, 0x9F), (0x80, 0xBF)]
  else if lead < 0xF0 then some [(0x80, 0xBF), (0x80, 0xBF)]
  else if lead = 0xF0 then some [(0x90, 0xBF), (0x80, 0xBF), (0x80, 0xBF)]
  else if lead < 0xF4 then some [(0x80, 0xBF), (0x80, 0xBF), (0x80, 0xBF)]
  else if lead = 0xF4 then some [(0x80, 0x8F), (0x80, 0xBF), (0x80, 0xBF)]
  else none

/-- The bits of a lead byte that belong to its character, where so many tail bytes follow. -/
def leadBits (lead : Nat) : Nat → Nat
  | 0 => lead
  | 1 => lead % 0x20
  | 2 => lead % 0x10
  | _ => lead % 0x08

/-- A character begun: its bits so far, the range of its next byte and those of later bytes. -/
structure Pending where
  bits : Nat
  next : Nat × Nat
  later : List (Nat × Nat)

/-- What a byte settles: characters, or nothing where a sequence is malformed, and the character
begun after them. -/
abbrev Settled := List (Option Char) × Option Pending

/-- Bits whose tail bytes in these ranges are still to come. -/
def settle (bits : Nat) : List (Nat × Nat) → Settled
  | [] => ([some (Char.ofNat bits)], none)
  | next :: later => ([], some ⟨bits, next, later⟩)

def start (byte : Nat) : Settled :=
  match tailRanges? byte with
  | some ranges => settle (leadBits byte ranges.length) ranges
  | none => ([none], none)

/-- A byte out of range ends the sequence as malformed and starts anew. -/
def advance (pending : Option Pending) (byte : Nat) : Settled :=
  match pending with
  | none => start byte
  | some p =>
    if p.next.1 ≤ byte ∧ byte ≤ p.next.2 then settle (p.bits * 0x40 + byte % 0x40) p.later
    else (none :: (start byte).1, (start byte).2)

/-- The characters of bytes, with nothing in the place of each malformed sequence. -/
def sequences : Option Pending → List UInt8 → List (Option Char)
  | none, [] => []
  | some _, [] => [none]
  | pending, byte :: rest =>
    match advance pending byte.toNat with
    | (read, pending) => read ++ sequences pending rest

/-- The text of bytes without a malformed sequence. -/
def decode? (bytes : List UInt8) : Option (List Char) := (sequences none bytes).mapM id

/-- The text of any bytes, with a replacement character for each malformed sequence. -/
def decodeLossy (bytes : List UInt8) : List Char :=
  (sequences none bytes).map (·.getD '\ufffd')

end Utf8

namespace Percent

/-- The bytes of a text. A percent sign without two digits stands for itself. -/
def bytes : List Char → List UInt8
  | [] => []
  | '%' :: high :: low :: rest =>
    match hexValue? high, hexValue? low with
    | some h, some l => UInt8.ofNat (16 * h + l) :: bytes rest
    | _, _ => '%'.toUInt8 :: bytes (high :: low :: rest)
  | c :: rest => String.utf8EncodeChar c ++ bytes rest

/-- The text of escaped text whose bytes are well formed. -/
def decode? (text : List Char) : Option (List Char) := Utf8.decode? (bytes text)

/-- The text of a value in a list of parameters, where a plus sign stands for a blank. -/
def decodeParameter (text : List Char) : List Char :=
  Utf8.decodeLossy (bytes (text.map fun c => if c = '+' then ' ' else c))

def escapedByte (byte : UInt8) : List Char :=
  ['%', (hexDigit (byte.toNat / 16)).toUpper, (hexDigit (byte.toNat % 16)).toUpper]

/-- Escapes all bytes of the characters that are not visible ones of the ASCII range. -/
def encodeControls (text : List Char) : List Char :=
  text.flatMap fun c =>
    if ' ' ≤ c ∧ c < '\x7f' then [c] else (String.utf8EncodeChar c).flatMap escapedByte

end Percent
end Tenancy
