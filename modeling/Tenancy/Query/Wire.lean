import Tenancy.Query.Basic

/-! The form of queries on the wire. -/
namespace Tenancy

namespace FieldList

def toJson : FieldList → Json
  | .all => .string "*"
  | .count => .string "COUNT(*)"
  | .columns names => .strings names

/-- A star stands for all columns and cannot be mixed with others. -/
def ofNames : List String → Except Wire.Fault FieldList
  | [] => .error .emptyFieldList
  | ["*"] => .ok .all
  | names => if "*" ∈ names then .error .combinedStar else .ok (.columns names)

def decode : Wire.Decoder FieldList
  | .string name => if name = "COUNT(*)" then .ok .count else ofNames [name]
  | .array items =>
    match items.mapM Wire.text with
    | .ok names => ofNames names
    | .error fault => .error fault
  | _ => .error .shape

end FieldList

namespace Query

def Select.members (node : Select) : List (String × Json) :=
  [("table", .string node.table), ("fields", node.fields.toJson)]
    ++ optionalMember "where" (node.filter.map Condition.toJson)
    ++ (if node.orderBy.isEmpty then [] else [("orderBy", .strings node.orderBy)])
    ++ optionalMember "limit" (node.limit.map fun n => .ofNat n.toNat)

def Insert.members (node : Insert) : List (String × Json) :=
  [("table", .string node.table), ("records", .array (node.records.map .ofRecord))]

def Change.toJson (change : Change) : Json :=
  .object [("where", change.filter.toJson), ("updates", .ofRecord change.updates)]

def Update.members (node : Update) : List (String × Json) :=
  [("table", .string node.table), ("records", .array (node.records.map Change.toJson))]

/-- A record to delete is named by a condition alone. -/
def filterToJson (filter : Condition) : Json := .object [("where", filter.toJson)]

def Delete.members (node : Delete) : List (String × Json) :=
  [("table", .string node.table), ("records", .array (node.filters.map filterToJson))]

def members : Query → List (String × Json)
  | .select node => node.members
  | .insert node => node.members
  | .update node => node.members
  | .delete node => node.members

def toJson (q : Query) : Json := .object (("type", .string q.kind) :: q.members)

structure Select.Draft where
  table : Option String := none
  fields : FieldList := .all
  filter : Option Condition := none
  orderBy : List String := []
  limit : Option UInt64 := none

def Select.wireMembers : List (Wire.Member Select.Draft) := [
  ⟨"table", fun json draft => do return { draft with table := some (← Wire.text json) }⟩,
  ⟨"fields", fun json draft => do return { draft with fields := ← FieldList.decode json }⟩,
  ⟨"where", fun json draft => do
    return { draft with filter := ← Wire.nullable Condition.decode json }⟩,
  ⟨"orderBy", fun json draft => do return { draft with orderBy := ← Wire.list Wire.text json }⟩,
  ⟨"limit", fun json draft => do return { draft with limit := ← Wire.nullable Wire.word json }⟩]

def Select.decode : Wire.Decoder Select := fun json => do
  let draft ← Wire.members Select.wireMembers {} json
  return ⟨← Wire.required draft.table, draft.fields, draft.filter, draft.orderBy, draft.limit⟩

/-- The members that all statements on records have. -/
structure Batch (α : Type) where
  table : Option String := none
  records : Option (List α) := none

def Batch.wireMembers {α : Type} (record : Wire.Decoder α) : List (Wire.Member (Batch α)) := [
  ⟨"table", fun json draft => do return { draft with table := some (← Wire.text json) }⟩,
  ⟨"records", fun json draft => do
    return { draft with records := some (← Wire.list record json) }⟩]

def Batch.decode {α : Type} (record : Wire.Decoder α) : Wire.Decoder (String × List α) :=
  fun json => do
    let draft ← Wire.members (Batch.wireMembers record) {} json
    return (← Wire.required draft.table, ← Wire.required draft.records)

structure Change.Draft where
  filter : Option Condition := none
  updates : Option Record := none

def Change.wireMembers : List (Wire.Member Change.Draft) := [
  ⟨"where", fun json draft => do return { draft with filter := some (← Condition.decode json) }⟩,
  ⟨"updates", fun json draft => do return { draft with updates := some (← Wire.record json) }⟩]

def Change.decode : Wire.Decoder Change := fun json => do
  let draft ← Wire.members Change.wireMembers {} json
  return ⟨← Wire.required draft.filter, ← Wire.required draft.updates⟩

def filterMember : Wire.Member (Option Condition) :=
  ⟨"where", fun json _ => do return some (← Condition.decode json)⟩

def filterDecode : Wire.Decoder Condition := fun json => do
  Wire.required (← Wire.members [filterMember] none json)

def decode : Wire.Decoder Query := fun json => do
  let (tag, rest) ← Wire.tagged "type" json
  match tag with
  | "select" => return .select (← Select.decode rest)
  | "insert" =>
    let (table, records) ← Batch.decode Wire.record rest
    return .insert ⟨table, records⟩
  | "update" =>
    let (table, records) ← Batch.decode Change.decode rest
    return .update ⟨table, records⟩
  | "delete" =>
    let (table, filters) ← Batch.decode filterDecode rest
    return .delete ⟨table, filters⟩
  | _ => .error .shape

/-- Reads a query that came as JSON. -/
def ofJson (json : Json) : Checked Query :=
  match decode json with
  | .ok query => .ok query
  | .error fault => refuse .invalidQuery (.malformedQuery fault)

end Query
end Tenancy
