import Tenancy.OrderedMap
import Tenancy.Numeral.Decimal

/-! JSON values. Members of an object keep the order in which they were written, and integers are
kept apart from binary fractions. -/
namespace Tenancy

inductive Json.Number where
  | integer (i : Int)
  | fraction (x : Finite64)
deriving DecidableEq

inductive Json where
  | null
  | bool (b : Bool)
  | number (n : Json.Number)
  | string (s : String)
  | array (items : List Json)
  | object (members : List (String × Json))

/-- One row of a table, or the columns that a statement writes. -/
abbrev Record := OrderedMap Json

namespace Json

def ofRecord (record : Record) : Json := .object record.entries

def ofInt (i : Int) : Json := .number (.integer i)

def ofNat (n : Nat) : Json := .number (.integer n)

def strings (texts : List String) : Json := .array (texts.map .string)

def isStructured : Json → Bool
  | .array _ | .object _ => true
  | _ => false

/-! A member that is written twice keeps its first place and its last value. -/
mutual

def merged : Json → Json
  | .array items => .array (mergedItems items)
  | .object members => .object (OrderedMap.ofList (mergedMembers members)).entries
  | other => other

def mergedItems : List Json → List Json
  | [] => []
  | item :: rest => merged item :: mergedItems rest

def mergedMembers : List (String × Json) → List (String × Json)
  | [] => []
  | (key, value) :: rest => (key, merged value) :: mergedMembers rest

end

namespace Number

def toBinary64 : Number → Binary64
  | .integer i => .ofInt i
  | .fraction x => .finite x

def beq : Number → Number → Bool
  | .integer i, .integer j => i == j
  | .fraction x, .fraction y => x.signedUnits == y.signedUnits
  | _, _ => false

end Number

/-! Equality of values; the members of objects are compared as sets of named values. -/
mutual

def beq : Json → Json → Bool
  | .null, .null => true
  | .bool a, .bool b => a == b
  | .number m, .number n => m.beq n
  | .string s, .string t => s == t
  | .array xs, .array ys => beqItems xs ys
  | .object xs, .object ys => xs.length == ys.length && beqMembers xs ys
  | _, _ => false

def beqItems : List Json → List Json → Bool
  | [], [] => true
  | x :: xs, y :: ys => beq x y && beqItems xs ys
  | _, _ => false

/-- Every member of the first list has an equal one of its name in the second. -/
def beqMembers : List (String × Json) → List (String × Json) → Bool
  | [], _ => true
  | (key, x) :: xs, ys =>
    (match OrderedMap.find? key ys with
      | some y => beq x y
      | none => false) && beqMembers xs ys

end

end Json
end Tenancy
