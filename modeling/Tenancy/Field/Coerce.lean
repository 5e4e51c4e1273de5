import Tenancy.Calendar.Reading
import Tenancy.Field.Type
import Tenancy.Numeral.FixedPoint
import Tenancy.Numeral.Reading
import Tenancy.Value

/-! Coercion of values to the types of fields. Texts that do not fit are errors of format, and
values of another kind are mismatches of type. -/
namespace Tenancy.Coerce

open scoped Powers

def mismatch {α : Type} (field expected : String) (value : Value) : Checked α :=
  refuse .typeMismatch (.wrongKind expected field value.kind)

def toId (field : String) : Value → Checked RecordId
  | .id id => .ok id
  | .string s =>
    match RecordId.ofString? s with
    | some id => .ok id
    | none => refuse .format (.invalidFieldId field s)
  | value => mismatch field "id" value

def toText (field : String) : Value → Checked String
  | .string s => .ok s
  | .id id => .ok id.text
  | value => mismatch field "string" value

def toBool (field : String) : Value → Checked Bool
  | .bool b => .ok b
  | .string s =>
    if s = "true" then .ok true
    else if s = "false" then .ok false
    else refuse .format (.unreadable s "boolean" field)
  | value => mismatch field "boolean" value

/-- The integer part of a number, if 64 signed bits hold it. -/
def floorOf (field : String) (x : Binary64) : Checked Int64 :=
  match x with
  | .finite y =>
    if -(2 ^ (63 : Nat)) ≤ y.floor ∧ y.floor < 2 ^ (63 : Nat) then .ok (.ofInt y.floor)
    else refuse .format (.integerOutOfRange x field)
  | _ => refuse .format (.integerOutOfRange x field)

def toInteger (field : String) : Value → Checked Int64
  | .integer i => .ok i
  | .number x => floorOf field x
  | .string s =>
    match Binary64.parseCanonical? s with
    | some x => floorOf field (.finite x)
    | none => refuse .format (.unreadable s "integer" field)
  | value => mismatch field "integer" value

def finiteOf (field : String) : Binary64 → Checked Finite64
  | .finite x => .ok x
  | _ => refuse .format (.notFinite field)

def toNumber (field : String) : Value → Checked Finite64
  | .integer i => finiteOf field (.ofInt i.toInt)
  | .number x => finiteOf field x
  | .string s =>
    match Binary64.parseCanonical? s with
    | some x => .ok x
    | none => refuse .format (.unreadable s "number" field)
  | value => mismatch field "number" value

def rounded (places : Option UInt8) (x : Finite64) : Binary64 :=
  match places with
  | some n => x.roundToPlaces n.toNat
  | none => .finite x

def ofMillis (field : String) (millis : Int) : Checked Instant :=
  match Instant.ofMillis? millis with
  | some t => .ok t
  | none => refuse .format (.epochOutOfRange millis field)

/-- An integer kept within 64 signed bits. -/
def clamp (i : Int) : Int := max (-(2 ^ (63 : Nat))) (min i (2 ^ (63 : Nat) - 1))

/-- Numbers count milliseconds from the start of 1970, and must be whole. -/
def toInstant (field : String) : Value → Checked Instant
  | .timestamp t => .ok t
  | .integer i => ofMillis field i.toInt
  | .number (.finite x) =>
    if x.isIntegral then ofMillis field (clamp x.floor)
    else mismatch field "date" (.number (.finite x))
  | .string s =>
    match Instant.parse? s with
    | some t => .ok t
    | none => refuse .format (.unreadableDate s field)
  | value => mismatch field "date" value

end Tenancy.Coerce

namespace Tenancy.FieldType

/-- Brings a value that is not null to the one form that values of the type have. -/
def coerce (type : FieldType) (field : String) (value : Value) : Checked Value :=
  match type with
  | .id | .reference _ => (Coerce.toId field value).map .id
  | .string => (Coerce.toText field value).map .string
  | .boolean => (Coerce.toBool field value).map .bool
  | .integer => (Coerce.toInteger field value).map .integer
  | .number places => (Coerce.toNumber field value).map fun x => .number (Coerce.rounded places x)
  | .date => (Coerce.toInstant field value).map fun t => .timestamp t.midnight
  | .datetime => (Coerce.toInstant field value).map .timestamp

end Tenancy.FieldType
