import Tenancy.Schema.Definition

/-! Registries of schemas, through which reference fields find their targets. A field remembers the
target it found first, together with the key of the registry that it came from. Every change of a
registry gives it a key that was never used, so that an outdated memory is passed over. -/
namespace Tenancy

/-- A schema with an identity: schemas built apart are apart, even if they are equal. -/
structure SharedSchema where
  identity : Nat
  schema : Schema

structure Registry where
  key : UInt64
  schemas : OrderedMap SharedSchema

namespace Registry

def get? (r : Registry) (name : String) : Option SharedSchema := r.schemas.get? name

def size (r : Registry) : Nat := r.schemas.size

def isEmpty (r : Registry) : Bool := r.schemas.isEmpty

/-- The registered names in ascending order. -/
def names (r : Registry) : List String := r.schemas.keys.mergeSort fun a b => decide (a ≤ b)

/-- The registered schemas in ascending order of their names. -/
def sorted (r : Registry) : List SharedSchema := r.names.filterMap r.get?

end Registry

/-- Where a reference field remembers its target: the schema that the field belongs to, and its
name. -/
structure ReferenceSlot where
  owner : Nat
  field : String
deriving DecidableEq

structure ReferenceMemory where
  slot : ReferenceSlot
  registryKey : UInt64
  target : SharedSchema

/-- What registries and fields share: how many keys were drawn, the next unused identity, and all
that fields remember. -/
structure Resolution where
  drawn : Nat := 0
  nextIdentity : Nat := 0
  memories : List ReferenceMemory := []

namespace Resolution

/-- Gives a schema an identity of its own. -/
def share (r : Resolution) (schema : Schema) : SharedSchema × Resolution :=
  (⟨r.nextIdentity, schema⟩, { r with nextIdentity := r.nextIdentity + 1 })

/-- Keys count up from one, and start again where they do not fit. -/
def nextKey (r : Resolution) : UInt64 := .ofNat (r.drawn + 1)

def newRegistry (r : Resolution) : Registry × Resolution :=
  (⟨r.nextKey, ∅⟩, { r with drawn := r.drawn + 1 })

def copyRegistry (r : Resolution) (registry : Registry) : Registry × Resolution :=
  ({ registry with key := r.nextKey }, { r with drawn := r.drawn + 1 })

/-- Registers a schema under its name; the schema that had the name before is no longer registered.
-/
def register (r : Resolution) (registry : Registry) (schema : SharedSchema) :
    Registry × Resolution :=
  (⟨r.nextKey, registry.schemas.insert schema.schema.name schema⟩,
    { r with drawn := r.drawn + 1 })

/-- Registers tables in order up to the first that is refused. The keys that were drawn for the
others are used up in any case. -/
def registerTables (r : Resolution) (registry : Registry) :
    List TableDefinition → Checked Registry × Resolution
  | [] => (.ok registry, r)
  | table :: rest =>
    match table.toSchema with
    | .error error => (.error error, r)
    | .ok schema =>
      let (schema, r) := r.share schema
      let (registry, r) := r.register registry schema
      registerTables r registry rest

/-- A registry of the schemas that a text defines. -/
def registryOfText (r : Resolution) (text : String) : Checked Registry × Resolution :=
  match SchemaDefinition.ofText text with
  | .error error => (.error error, r)
  | .ok definition =>
    let (registry, r) := r.newRegistry
    r.registerTables registry definition.toTables

def memory? (r : Resolution) (slot : ReferenceSlot) : Option ReferenceMemory :=
  r.memories.find? fun memory => memory.slot = slot

/-- The remembered target, if it came from the same state of the registry and is still in use. -/
def remembered? (r : Resolution) (inUse : SharedSchema → Bool) (slot : Option ReferenceSlot)
    (registry : Registry) : Option SharedSchema := do
  let memory ← r.memory? (← slot)
  if memory.registryKey = registry.key ∧ inUse memory.target then some memory.target else none

/-- Remembers a target where nothing is remembered yet. -/
def remember (r : Resolution) (slot : Option ReferenceSlot) (registry : Registry)
    (target : SharedSchema) : Resolution :=
  match slot with
  | none => r
  | some slot =>
    match r.memory? slot with
    | some _ => r
    | none => { r with memories := r.memories ++ [⟨slot, registry.key, target⟩] }

/-- Finds the schema that a reference field points to. A field that belongs to no schema has no slot
and remembers nothing. -/
def resolve (r : Resolution) (inUse : SharedSchema → Bool) (slot : Option ReferenceSlot)
    (field : Field) (registry : Registry) : Checked SharedSchema × Resolution :=
  match field.target? with
  | none => (refuse .invalidArgument (.notReference field.name), r)
  | some target =>
    match r.remembered? inUse slot registry with
    | some schema => (.ok schema, r)
    | none =>
      match registry.get? target.entity with
      | some schema => (.ok schema, r.remember slot registry schema)
      | none => (refuse .unresolvedReference (.unresolved target.entity field.name), r)

end Resolution
end Tenancy
