import Tenancy.Calendar.Instant
import Tenancy.Json.Basic
import Tenancy.RecordId

/-! The values that callers, entities and statements exchange. -/
namespace Tenancy

open scoped Powers

inductive Value where
  | null
  | bool (b : Bool)
  | integer (i : Int64)
  | number (x : Binary64)
  | string (s : String)
  | id (r : RecordId)
  | timestamp (t : Instant)
  /-- Arrays and objects, which no field holds. -/
  | structured (json : Json)

namespace Value

def isNull : Value → Bool
  | .null => true
  | _ => false

def asString? : Value → Option String
  | .string s => some s
  | .id r => some r.text
  | _ => none

def asBool? : Value → Option Bool
  | .bool b => some b
  | _ => none

def asInteger? : Value → Option Int64
  | .integer i => some i
  | _ => none

def asNumber? : Value → Option Binary64
  | .integer i => some (.ofInt i.toInt)
  | .number x => some x
  | _ => none

def asId? : Value → Option RecordId
  | .id r => some r
  | _ => none

def asTimestamp? : Value → Option Instant
  | .timestamp t => some t
  | _ => none

def kind : Value → String
  | .null => "null"
  | .bool _ => "boolean"
  | .integer _ | .number _ => "number"
  | .string _ => "string"
  | .id _ => "id"
  | .timestamp _ => "date"
  | .structured (.array _) => "array"
  | .structured _ => "object"

/-- The form of a value in rows and queries. Instants are cut to milliseconds, and a number that is
not finite has no form. -/
def toJson : Value → Json
  | .null => .null
  | .bool b => .bool b
  | .integer i => .ofInt i.toInt
  | .number (.finite x) => .number (.fraction x)
  | .number _ => .null
  | .string s => .string s
  | .id r => .string r.text
  | .timestamp t => .string (t.text 3)
  | .structured json => json

/-- Integers that do not fit 64 signed bits become the nearest number. -/
def ofNumber : Json.Number → Value
  | .integer i =>
    if -(2 ^ (63 : Nat)) ≤ i ∧ i < 2 ^ (63 : Nat) then .integer (.ofInt i) else .number (.ofInt i)
  | .fraction x => .number (.finite x)

def ofJson : Json → Value
  | .null => .null
  | .bool b => .bool b
  | .number n => ofNumber n
  | .string s => .string s
  | json => .structured json

/-- Equality of values; as a number, NaN differs from itself. -/
def beq : Value → Value → Bool
  | .null, .null => true
  | .bool a, .bool b => a == b
  | .integer i, .integer j => i == j
  | .number x, .number y => x.beq y
  | .string s, .string t => s == t
  | .id a, .id b => a.text == b.text
  | .timestamp t, .timestamp u => t == u
  | .structured a, .structured b => a.beq b
  | _, _ => false

end Value
end Tenancy
