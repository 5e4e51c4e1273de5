import Tenancy.Json.Basic
import Tenancy.Numeral.Layout
import Tenancy.Text.Basic

/-! Compact JSON text: no blanks, members in their order, only what must be escaped escaped. -/
namespace Tenancy.Json

/-- Fractions show a point between `1e-5` and `1e16` and an exponent elsewhere. -/
def numberLayout : NumberLayout where
  lowest := some (-5)
  highest := some 15
  wholeSuffix := ".0"
  signedZero := true
  tie := .even
  nan := "NaN"
  infinite := "inf"

def Number.text : Number → String
  | .integer i => integerText i
  | .fraction x => numberLayout.finiteText x

def escapedChar (c : Char) : List Char :=
  if c = '"' then ['\\', '"']
  else if c = '\\' then ['\\', '\\']
  else if c = '\x08' then ['\\', 'b']
  else if c = '\x0c' then ['\\', 'f']
  else if c = '\n' then ['\\', 'n']
  else if c = '\r' then ['\\', 'r']
  else if c = '\t' then ['\\', 't']
  else if c.toNat < 32 then ['\\', 'u', '0', '0', hexDigit (c.toNat / 16), hexDigit (c.toNat % 16)]
  else [c]

def quotedText (s : String) : String :=
  String.ofList ('"' :: s.toList.flatMap escapedChar ++ ['"'])

mutual

def text : Json → String
  | .null => "null"
  | .bool b => if b then "true" else "false"
  | .number n => n.text
  | .string s => quotedText s
  | .array items => "[" ++ itemsText items ++ "]"
  | .object members => "\x7b" ++ membersText members ++ "\x7d"

def itemsText : List Json → String
  | [] => ""
  | [item] => text item
  | item :: rest => text item ++ "," ++ itemsText rest

def membersText : List (String × Json) → String
  | [] => ""
  | [(key, value)] => quotedText key ++ ":" ++ text value
  | (key, value) :: rest => quotedText key ++ ":" ++ text value ++ "," ++ membersText rest

end

end Tenancy.Json
