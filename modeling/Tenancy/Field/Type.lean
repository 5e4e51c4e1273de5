import Tenancy.Error

/-! The types of fields and their form on the wire. -/
namespace Tenancy

structure ReferenceTarget where
  entity : String
  lookupColumn : String
  inverseRelation : Option String
deriving DecidableEq

inductive FieldType where
  | id
  | string
  | boolean
  | integer
  | number (places : Option UInt8)
  | date
  | datetime
  | reference (target : ReferenceTarget)
deriving DecidableEq

/-- A member that is written only when it is present. -/
def optionalMember (name : String) (value : Option Json) : List (String × Json) :=
  match value with
  | some json => [(name, json)]
  | none => []

namespace ReferenceTarget

def members (target : ReferenceTarget) : List (String × Json) :=
  [("entity", .string target.entity), ("lookup_column", .string target.lookupColumn)]
    ++ optionalMember "inverse_relation" (target.inverseRelation.map .string)

def toJson (target : ReferenceTarget) : Json := .object target.members

structure Draft where
  entity : Option String := none
  lookupColumn : String := "id"
  inverseRelation : Option String := none

def wireMembers : List (Wire.Member Draft) := [
  ⟨"entity", fun json draft => do return { draft with entity := some (← Wire.text json) }⟩,
  ⟨"lookup_column", fun json draft => do return { draft with lookupColumn := ← Wire.text json }⟩,
  ⟨"inverse_relation", fun json draft => do
    return { draft with inverseRelation := ← Wire.nullable Wire.text json }⟩]

def decode : Wire.Decoder ReferenceTarget := fun json => do
  let draft ← Wire.members wireMembers {} json
  return ⟨← Wire.required draft.entity, draft.lookupColumn, draft.inverseRelation⟩

end ReferenceTarget

namespace FieldType

def name : FieldType → String
  | .id => "id"
  | .string => "string"
  | .boolean => "boolean"
  | .integer => "integer"
  | .number _ => "number"
  | .date => "date"
  | .datetime => "datetime"
  | .reference _ => "reference"

def members : FieldType → List (String × Json)
  | .number places => optionalMember "decimal_places" (places.map fun n => .ofNat n.toNat)
  | .reference target => target.members
  | _ => []

def toJson (type : FieldType) : Json := .object (("type", .string type.name) :: type.members)

/-- A type without members: an object may hold anything else, an array nothing. -/
def bare (type : FieldType) : Wire.Decoder FieldType
  | .object _ => .ok type
  | .array [] => .ok type
  | _ => .error .shape

def placesMember : Wire.Member (Option UInt8) :=
  ⟨"decimal_places", fun json _ => Wire.nullable Wire.byte json⟩

def decode : Wire.Decoder FieldType := fun json => do
  let (tag, rest) ← Wire.tagged "type" json
  match tag with
  | "id" => bare .id rest
  | "string" => bare .string rest
  | "boolean" => bare .boolean rest
  | "integer" => bare .integer rest
  | "number" => return .number (← Wire.members [placesMember] none rest)
  | "date" => bare .date rest
  | "datetime" => bare .datetime rest
  | "reference" => return .reference (← ReferenceTarget.decode rest)
  | _ => .error .shape

end FieldType
end Tenancy
