import Tenancy.Schema.Basic
import Tenancy.Json.Reader

/-! Schemas as they are written down in JSON: tables with their fields. -/
namespace Tenancy

structure FieldDefinition where
  name : String
  dbName : Option String
  type : String
  required : Bool
  decimalPlaces : Option UInt8
  foreignObject : Option String
  foreignLookupField : Option String
  foreignRelationName : Option String

structure TableDefinition where
  name : String
  dbName : Option String
  tableSpace : Option String
  fields : List FieldDefinition

/-- One table, or several. -/
inductive SchemaDefinition where
  | tables (tables : List TableDefinition)
  | table (table : TableDefinition)

namespace FieldDefinition

def toJson (d : FieldDefinition) : Json := .object (
  [("name", .string d.name)]
    ++ optionalMember "db_name" (d.dbName.map .string)
    ++ [("type", .string d.type), ("required", .bool d.required)]
    ++ optionalMember "decimal_places" (d.decimalPlaces.map fun n => .ofNat n.toNat)
    ++ optionalMember "foreignObject" (d.foreignObject.map .string)
    ++ optionalMember "foreignLookupField" (d.foreignLookupField.map .string)
    ++ optionalMember "foreignRelationName" (d.foreignRelationName.map .string))

structure Draft where
  name : Option String := none
  dbName : Option String := none
  type : Option String := none
  required : Bool := false
  decimalPlaces : Option UInt8 := none
  foreignObject : Option String := none
  foreignLookupField : Option String := none
  foreignRelationName : Option String := none

def wireMembers : List (Wire.Member Draft) := [
  ⟨"name", fun json draft => do return { draft with name := some (← Wire.text json) }⟩,
  ⟨"db_name", fun json draft => do return { draft with dbName := ← Wire.nullable Wire.text json }⟩,
  ⟨"type", fun json draft => do return { draft with type := some (← Wire.text json) }⟩,
  ⟨"required", fun json draft => do return { draft with required := ← Wire.bool json }⟩,
  ⟨"decimal_places", fun json draft => do
    return { draft with decimalPlaces := ← Wire.nullable Wire.byte json }⟩,
  ⟨"foreignObject", fun json draft => do
    return { draft with foreignObject := ← Wire.nullable Wire.text json }⟩,
  ⟨"foreignLookupField", fun json draft => do
    return { draft with foreignLookupField := ← Wire.nullable Wire.text json }⟩,
  ⟨"foreignRelationName", fun json draft => do
    return { draft with foreignRelationName := ← Wire.nullable Wire.text json }⟩]

def decode : Wire.Decoder FieldDefinition := fun json => do
  let draft ← Wire.members wireMembers {} json
  return ⟨← Wire.required draft.name, draft.dbName, ← Wire.required draft.type, draft.required,
    draft.decimalPlaces, draft.foreignObject, draft.foreignLookupField, draft.foreignRelationName⟩

/-- The type that a definition names; text has two names. -/
def fieldType (d : FieldDefinition) : Checked FieldType :=
  match d.type with
  | "id" => .ok .id
  | "string" => .ok .string
  | "text" => .ok .string
  | "boolean" => .ok .boolean
  | "integer" => .ok .integer
  | "number" => .ok (.number d.decimalPlaces)
  | "date" => .ok .date
  | "datetime" => .ok .datetime
  | "reference" =>
    match d.foreignObject with
    | some entity =>
      .ok (.reference ⟨entity, d.foreignLookupField.getD idName, d.foreignRelationName⟩)
    | none => refuse .invalidArgument (.noForeignObject d.name)
  | other => refuse .invalidArgument (.unknownType other d.name)

def toField (d : FieldDefinition) : Checked Field := do
  return ⟨d.name, d.dbName, ← d.fieldType, d.required⟩

end FieldDefinition

namespace TableDefinition

def toJson (d : TableDefinition) : Json := .object (
  [("name", .string d.name)]
    ++ optionalMember "db_name" (d.dbName.map .string)
    ++ optionalMember "namespace" (d.tableSpace.map .string)
    ++ [("fields", .array (d.fields.map FieldDefinition.toJson))])

structure Draft where
  name : Option String := none
  dbName : Option String := none
  tableSpace : Option String := none
  fields : List FieldDefinition := []

def wireMembers : List (Wire.Member Draft) := [
  ⟨"name", fun json draft => do return { draft with name := some (← Wire.text json) }⟩,
  ⟨"db_name", fun json draft => do return { draft with dbName := ← Wire.nullable Wire.text json }⟩,
  ⟨"namespace", fun json draft => do
    return { draft with tableSpace := ← Wire.nullable Wire.text json }⟩,
  ⟨"fields", fun json draft => do
    return { draft with fields := ← Wire.list FieldDefinition.decode json }⟩]

def decode : Wire.Decoder TableDefinition := fun json => do
  let draft ← Wire.members wireMembers {} json
  return ⟨← Wire.required draft.name, draft.dbName, draft.tableSpace, draft.fields⟩

/-- The identifier field is part of every schema, so its definition is passed over. -/
def toSchema (d : TableDefinition) : Checked Schema := do
  let fields ← (d.fields.filter fun f => f.name ≠ idName).mapM FieldDefinition.toField
  Schema.build ⟨d.name, d.dbName.getD d.name, d.tableSpace, idName, fields⟩

end TableDefinition

namespace SchemaDefinition

def toJson : SchemaDefinition → Json
  | .tables several => .object [("tables", .array (several.map TableDefinition.toJson))]
  | .table single => single.toJson

def toTables : SchemaDefinition → List TableDefinition
  | .tables several => several
  | .table single => [single]

def tablesMember : Wire.Member (Option (List TableDefinition)) :=
  ⟨"tables", fun json _ => do return some (← Wire.list TableDefinition.decode json)⟩

/-- Several tables come in an object, not in an array. -/
def decodeTables : Wire.Decoder SchemaDefinition
  | .object entries => do
    return .tables (← Wire.required (← Wire.byName [tablesMember] [] entries none))
  | _ => .error .shape

/-- What does not decode as several tables may still be one. -/
def decode : Wire.Decoder SchemaDefinition := fun json =>
  match decodeTables json with
  | .ok definition => .ok definition
  | .error _ => (TableDefinition.decode json).map .table

def ofJson (json : Json) : Checked SchemaDefinition := decoded (decode json)

def ofText (text : String) : Checked SchemaDefinition :=
  match Json.parse? text with
  | some json => ofJson json
  | none => refuse .json (.malformedJson .shape)

end SchemaDefinition
end Tenancy
