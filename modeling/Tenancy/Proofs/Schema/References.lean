import Mathlib.Logic.Function.Basic
import Tenancy.Proofs.Entity.Columns
import Tenancy.Schema.Registry

/-! References that are resolved through registries, in runs of calls. What fields remember stands
beside what the registries hold, and a key stands for one content: a memory with the key of a registry
is what the registry says. -/
namespace Tenancy

open scoped Powers

namespace Resolution

variable {r r' : Resolution} {registry registry' : Registry}

/-- The key is among those that were drawn. -/
def Drawn (r : Resolution) (key : UInt64) : Prop := ∃ n < r.drawn, key = .ofNat (n + 1)

theorem Drawn.mono {key : UInt64} (drawn : r.Drawn key) (grown : r.drawn ≤ r'.drawn) : r'.Drawn key := by
  obtain ⟨n, before, rfl⟩ := drawn
  exact ⟨n, Nat.lt_of_lt_of_le before grown, rfl⟩

/-- Keys are drawn, and nothing is remembered or forgotten. -/
structure Grows (r r' : Resolution) : Prop where
  drawn : r.drawn ≤ r'.drawn
  memories : r'.memories = r.memories

/-- The key of the registry is drawn on the way. -/
structure Draws (r r' : Resolution) (registry : Registry) : Prop extends r.Grows r' where
  key : ∃ n, r.drawn ≤ n ∧ n < r'.drawn ∧ registry.key = .ofNat (n + 1)

theorem draws_next (key : registry.key = r.nextKey) : r.Draws { r with drawn := r.drawn + 1 } registry :=
  ⟨⟨Nat.le_succ _, rfl⟩, r.drawn, Nat.le_refl _, Nat.lt_succ_self _, key⟩

theorem draws_newRegistry : r.Draws r.newRegistry.2 r.newRegistry.1 := draws_next rfl

theorem draws_copyRegistry : r.Draws (r.copyRegistry registry).2 (r.copyRegistry registry).1 := draws_next rfl

theorem draws_register (r : Resolution) (registry : Registry) (schema : SharedSchema) :
    r.Draws (r.register registry schema).2 (r.register registry schema).1 := draws_next rfl

theorem Grows.draws {r'' : Resolution} (grows : r.Grows r') (draws : r'.Draws r'' registry) :
    r.Draws r'' registry := by
  obtain ⟨n, after, before, key⟩ := draws.key
  exact ⟨⟨Nat.le_trans grows.drawn draws.drawn, draws.memories.trans grows.memories⟩, n,
    Nat.le_trans grows.drawn after, before, key⟩

theorem Grows.share (grows : r.Grows r') (schema : Schema) : r.Grows (r'.share schema).2 :=
  ⟨grows.drawn, grows.memories⟩

theorem grows_registerTables {tables : List TableDefinition} (grows : r.Grows r') :
    r.Grows (r'.registerTables registry tables).2 := by
  induction tables generalizing r' registry with
  | nil => exact grows
  | cons table rest ih =>
    rw [registerTables]
    cases table.toSchema with
    | error error => exact grows
    | ok schema =>
      exact ih ((grows.share schema).draws (draws_register _ registry (r'.share schema).1)).toGrows

theorem draws_registerTables {tables : List TableDefinition} (draws : r.Draws r' registry)
    (made : (r'.registerTables registry tables).1 = .ok registry') :
    r.Draws (r'.registerTables registry tables).2 registry' := by
  induction tables generalizing r' registry with
  | nil =>
    obtain rfl := Except.ok.inj made
    exact draws
  | cons table rest ih =>
    rw [registerTables] at made ⊢
    cases built : table.toSchema with
    | error error =>
      rw [built] at made
      cases made
    | ok schema =>
      rw [built] at made
      exact ih ((draws.toGrows.share schema).draws (draws_register ..)) made

theorem grows_registryOfText {text : String} : r.Grows (r.registryOfText text).2 := by
  rw [registryOfText]
  cases SchemaDefinition.ofText text with
  | error error => exact ⟨Nat.le_refl _, rfl⟩
  | ok definition => exact grows_registerTables draws_newRegistry.toGrows

theorem draws_registryOfText {text : String} (made : (r.registryOfText text).1 = .ok registry) :
    r.Draws (r.registryOfText text).2 registry := by
  rw [registryOfText] at made ⊢
  cases read : SchemaDefinition.ofText text with
  | error error =>
    rw [read] at made
    cases made
  | ok definition =>
    rw [read] at made
    exact draws_registerTables draws_newRegistry made

/-- Before the keys start again, a key that is drawn was not drawn before. -/
theorem Draws.ne_of_drawn {key : UInt64} (draws : r.Draws r' registry) (fits : r'.drawn ≤ 2 ^ (64 : Nat))
    (drawn : r.Drawn key) : key ≠ registry.key := by
  obtain ⟨n, before, rfl⟩ := drawn
  obtain ⟨m, after, bound, key⟩ := draws.key
  intro same
  have values := congrArg UInt64.toNat (same.trans key)
  rw [UInt64.toNat_ofNat', UInt64.toNat_ofNat'] at values
  omega

theorem mem_of_memory? {slot : ReferenceSlot} {memory : ReferenceMemory} (found : r.memory? slot = some memory) :
    memory ∈ r.memories ∧ memory.slot = slot := by
  have matches' := List.find?_some found
  exact ⟨List.mem_of_find?_eq_some found, of_decide_eq_true matches'⟩

/-- Without what the fields remember. -/
def forgotten (r : Resolution) : Resolution := { r with memories := [] }

theorem registerTables_forgotten {tables : List TableDefinition} :
    r.forgotten.registerTables registry tables =
      ((r.registerTables registry tables).1, (r.registerTables registry tables).2.forgotten) := by
  induction tables generalizing r registry with
  | nil => rfl
  | cons table rest ih =>
    rw [registerTables, registerTables]
    cases table.toSchema with
    | error error => rfl
    | ok schema =>
      exact ih (r := ((r.share schema).2.register registry (r.share schema).1).2)

theorem registryOfText_forgotten (text : String) :
    r.forgotten.registryOfText text = ((r.registryOfText text).1, (r.registryOfText text).2.forgotten) := by
  rw [registryOfText, registryOfText]
  cases SchemaDefinition.ofText text with
  | error error => rfl
  | ok definition => exact registerTables_forgotten (r := r.newRegistry.2)

end Resolution

/-- The schema that a registry holds for a field now. -/
def Registry.targetOf (registry : Registry) (field : Field) : Checked SharedSchema :=
  match field.target? with
  | none => refuse .invalidArgument (.notReference field.name)
  | some target =>
    match registry.get? target.entity with
    | some schema => .ok schema
    | none => refuse .unresolvedReference (.unresolved target.entity field.name)

/-- Ways to find the target of a field, which may be remembered in a slot. -/
abbrev Resolver :=
  Resolution → (SharedSchema → Bool) → Option ReferenceSlot → Field → Registry → Checked SharedSchema × Resolution

def Resolver.direct : Resolver := fun r _ _ field registry => (registry.targetOf field, r)

namespace Resolution

variable {r : Resolution} {registry : Registry} {inUse : SharedSchema → Bool} {slot : Option ReferenceSlot}
  {field : Field}

theorem remembered?_eq_some_iff {schema : SharedSchema} :
    r.remembered? inUse slot registry = some schema ↔ ∃ own memory, slot = some own ∧
      r.memory? own = some memory ∧ memory.registryKey = registry.key ∧ inUse memory.target = true ∧
      memory.target = schema := by
  simp [remembered?, Option.bind_eq_some_iff, and_assoc]

/-- Memories of the registry as it is change nothing. -/
theorem resolve_eq_targetOf
    (current : ∀ own memory, slot = some own → r.memory? own = some memory → memory.registryKey = registry.key →
      ∀ target, field.target? = some target → registry.get? target.entity = some memory.target) :
    (r.resolve inUse slot field registry).1 = registry.targetOf field := by
  rw [resolve, Registry.targetOf]
  cases pointed : field.target? with
  | none => rfl
  | some target =>
    dsimp only
    cases known : r.remembered? inUse slot registry with
    | none => cases registry.get? target.entity <;> rfl
    | some schema =>
      obtain ⟨own, memory, slotted, found, key, -, rfl⟩ := remembered?_eq_some_iff.mp known
      rw [current own memory slotted found key target pointed]

/-- A field remembers what the registry holds for it, or nothing new. -/
theorem resolve_remembers (r : Resolution) (inUse : SharedSchema → Bool) (slot : Option ReferenceSlot)
    (field : Field) (registry : Registry) :
    (r.resolve inUse slot field registry).2 = r ∨ ∃ own target schema, slot = some own ∧
      field.target? = some target ∧ registry.get? target.entity = some schema ∧
      (r.resolve inUse slot field registry).2 =
        { r with memories := r.memories ++ [⟨own, registry.key, schema⟩] } := by
  rw [resolve]
  cases pointed : field.target? with
  | none => exact .inl rfl
  | some target =>
    dsimp only
    cases r.remembered? inUse slot registry with
    | some schema => exact .inl rfl
    | none =>
      cases held : registry.get? target.entity with
      | none => exact .inl rfl
      | some schema =>
        cases slot with
        | none => exact .inl rfl
        | some own =>
          dsimp only
          rw [remember]
          cases r.memory? own with
          | some memory => exact .inl rfl
          | none => exact .inr ⟨own, target, schema, rfl, rfl, held, rfl⟩

theorem forgotten_resolve (r : Resolution) (inUse : SharedSchema → Bool) (slot : Option ReferenceSlot)
    (field : Field) (registry : Registry) :
    (r.resolve inUse slot field registry).2.forgotten = r.forgotten := by
  obtain same | ⟨_, _, _, _, _, _, new⟩ := r.resolve_remembers inUse slot field registry
  · rw [same]
  · rw [new]
    rfl

end Resolution

/-- Registries by name, with what they and the fields share. -/
structure Registries where
  resolution : Resolution := {}
  named : OrderedMap Registry := ∅

namespace Registries

/-- A field is known by the slot where it remembers its target, wherever it stands; each of its
clones has another slot. A loose field is not kept, and remembers nothing. -/
inductive Reference where
  | kept (slot : ReferenceSlot)
  | loose (field : Field)

namespace Reference

def slot? : Reference → Option ReferenceSlot
  | .kept slot => some slot
  | .loose _ => none

def field (fields : ReferenceSlot → Field) : Reference → Field
  | .kept slot => fields slot
  | .loose field => field

end Reference

inductive Call where
  | build (schema : Schema)
  | create (name : String)
  | read (name text : String)
  | clone (name source : String)
  | register (name : String) (schema : SharedSchema)
  | get (name entity : String)
  /-- Schemas may be dropped between calls, so each call has its own that are in use. -/
  | resolve (reference : Reference) (name : String) (inUse : SharedSchema → Bool)

inductive Answer where
  | done (result : Checked Unit)
  | schema (held : Option SharedSchema)
  | target (result : Checked SharedSchema)
  /-- There is no registry of the name. -/
  | missing

def put (s : Registries) (name : String) (made : Registry × Resolution) : Registries :=
  ⟨made.2, s.named.insert name made.1⟩

/-- Calls where the fields are given by their slots, and targets are found in one of the ways. -/
def step (fields : ReferenceSlot → Field) (resolve : Resolver) (s : Registries) : Call → Answer × Registries
  | .build schema =>
    let (shared, resolution) := s.resolution.share schema
    (.schema (some shared), { s with resolution })
  | .create name => (.done (.ok ()), s.put name s.resolution.newRegistry)
  | .read name text =>
    match s.resolution.registryOfText text with
    | (.ok registry, resolution) => (.done (.ok ()), s.put name (registry, resolution))
    | (.error error, resolution) => (.done (.error error), { s with resolution })
  | .clone name source =>
    match s.named.get? source with
    | some registry => (.done (.ok ()), s.put name (s.resolution.copyRegistry registry))
    | none => (.missing, s)
  | .register name schema =>
    match s.named.get? name with
    | some registry =>
      (.schema (registry.get? schema.schema.name), s.put name (s.resolution.register registry schema))
    | none => (.missing, s)
  | .get name entity =>
    match s.named.get? name with
    | some registry => (.schema (registry.get? entity), s)
    | none => (.missing, s)
  | .resolve reference name inUse =>
    match s.named.get? name with
    | some registry =>
      let (result, resolution) :=
        resolve s.resolution inUse reference.slot? (reference.field fields) registry
      (.target result, { s with resolution })
    | none => (.missing, s)

def run (fields : ReferenceSlot → Field) (resolve : Resolver) :
    Registries → List Call → List Answer × Registries
  | s, [] => ([], s)
  | s, call :: rest =>
    let (answer, s) := s.step fields resolve call
    let (answers, s) := s.run fields resolve rest
    (answer :: answers, s)

variable {fields : ReferenceSlot → Field} {s : Registries} {content : UInt64 → OrderedMap SharedSchema}

/-- Each key stands for one content: that of the registries which have it, and that which the
memories with the key are of. -/
structure Consistent (fields : ReferenceSlot → Field) (content : UInt64 → OrderedMap SharedSchema)
    (s : Registries) : Prop where
  registry : ∀ name registry, s.named.get? name = some registry →
    s.resolution.Drawn registry.key ∧ content registry.key = registry.schemas
  memory : ∀ memory ∈ s.resolution.memories, s.resolution.Drawn memory.registryKey ∧
    ∀ target, (fields memory.slot).target? = some target →
      (content memory.registryKey).get? target.entity = some memory.target

theorem consistent_empty : Consistent fields content {} :=
  ⟨fun _ _ => nofun, fun _ => nofun⟩

/-- A fresh key can stand for any content. -/
theorem Consistent.put (consistent : s.Consistent fields content) {made : Registry × Resolution}
    (draws : s.resolution.Draws made.2 made.1) (fits : made.2.drawn ≤ 2 ^ (64 : Nat)) (name : String) :
    (s.put name made).Consistent fields (Function.update content made.1.key made.1.schemas) where
  registry other registry present := by
    rw [Registries.put, OrderedMap.get?_insert] at present
    split at present
    · obtain rfl := Option.some.inj present
      obtain ⟨n, -, before, key⟩ := draws.key
      exact ⟨⟨n, before, key⟩, Function.update_self ..⟩
    · obtain ⟨drawn, same⟩ := consistent.registry other registry present
      refine ⟨drawn.mono draws.drawn, ?_⟩
      -- The fresh key is of no other registry, so that theirs stand for what they did.
      rw [Function.update_of_ne (draws.ne_of_drawn fits drawn), same]
  memory memory member := by
    rw [Registries.put, draws.memories] at member
    obtain ⟨drawn, current⟩ := consistent.memory memory member
    refine ⟨drawn.mono draws.drawn, ?_⟩
    rwa [Function.update_of_ne (draws.ne_of_drawn fits drawn)]

theorem Consistent.grow (consistent : s.Consistent fields content) {resolution : Resolution}
    (grows : s.resolution.Grows resolution) : Consistent fields content { s with resolution } where
  registry name registry present := by
    obtain ⟨drawn, same⟩ := consistent.registry name registry present
    exact ⟨drawn.mono grows.drawn, same⟩
  memory memory member := by
    obtain ⟨drawn, current⟩ := consistent.memory memory (grows.memories ▸ member)
    exact ⟨drawn.mono grows.drawn, current⟩

variable {name : String} {registry : Registry} {reference : Reference} {inUse : SharedSchema → Bool}

/-- What a field answers is what the registry holds, whatever the field remembers. -/
theorem Consistent.resolve_eq (consistent : s.Consistent fields content)
    (present : s.named.get? name = some registry) :
    (s.resolution.resolve inUse reference.slot? (reference.field fields) registry).1 =
      registry.targetOf (reference.field fields) := by
  apply Resolution.resolve_eq_targetOf
  intro own memory slotted found key target pointed
  cases reference with
  | loose field => cases slotted
  | kept slot =>
    obtain rfl := Option.some.inj slotted
    obtain ⟨member, rfl⟩ := Resolution.mem_of_memory? found
    have current := (consistent.memory memory member).2 target pointed
    rwa [key, (consistent.registry name registry present).2] at current

theorem Consistent.resolve (consistent : s.Consistent fields content)
    (present : s.named.get? name = some registry) : Consistent fields content
      { s with resolution :=
        (s.resolution.resolve inUse reference.slot? (reference.field fields) registry).2 } := by
  obtain same | ⟨own, target, schema, slotted, pointed, held, new⟩ :=
    s.resolution.resolve_remembers inUse reference.slot? (reference.field fields) registry
  · rwa [same]
  · cases reference with
    | loose field => cases slotted
    | kept slot =>
      obtain rfl := Option.some.inj slotted
      obtain ⟨drawn, same⟩ := consistent.registry name registry present
      rw [new]
      refine ⟨consistent.registry, fun memory member => ?_⟩
      obtain old | rfl := List.mem_append.mp member |>.imp_right List.mem_singleton.mp
      · exact consistent.memory memory old
      · -- What is newly remembered was held by a registry that has the key.
        refine ⟨drawn, fun target' pointed' => ?_⟩
        obtain rfl : target = target' := Option.some.inj (pointed.symm.trans pointed')
        rw [same]
        exact held

/-- What a call can do: use up keys, put a registry with a fresh key under a name, or let a field
remember its target. -/
inductive Steps (fields : ReferenceSlot → Field) (s : Registries) : Registries → Prop
  | grow {resolution : Resolution} (grows : s.resolution.Grows resolution) :
      Steps fields s { s with resolution }
  | put {name : String} {made : Registry × Resolution} (draws : s.resolution.Draws made.2 made.1) :
      Steps fields s (s.put name made)
  | resolve {name : String} {registry : Registry} {reference : Reference} {inUse : SharedSchema → Bool}
      (present : s.named.get? name = some registry) : Steps fields s { s with resolution :=
        (s.resolution.resolve inUse reference.slot? (reference.field fields) registry).2 }

theorem Steps.same : s.Steps fields s := .grow ⟨Nat.le_refl _, rfl⟩

theorem steps (fields : ReferenceSlot → Field) (s : Registries) (call : Call) :
    s.Steps fields (s.step fields Resolution.resolve call).2 := by
  cases call with
  | build schema => exact .grow ⟨Nat.le_refl _, rfl⟩
  | create name => exact .put Resolution.draws_newRegistry
  | read name text =>
    rw [step]
    split
    · rename_i registry resolution made
      have draws := Resolution.draws_registryOfText (congrArg Prod.fst made)
      rw [made] at draws
      exact .put draws
    · rename_i error resolution made
      have grows : s.resolution.Grows (s.resolution.registryOfText text).2 := Resolution.grows_registryOfText
      rw [made] at grows
      exact .grow grows
  | clone name source =>
    rw [step]
    split
    · exact .put Resolution.draws_copyRegistry
    · exact .same
  | register name schema =>
    rw [step]
    split
    · exact .put (Resolution.draws_register ..)
    · exact .same
  | get name entity =>
    rw [step]
    split <;> exact .same
  | resolve reference name inUse =>
    rw [step]
    split
    · rename_i registry present
      exact .resolve present
    · exact .same

theorem Consistent.step (consistent : s.Consistent fields content) {call : Call}
    (fits : (s.step fields Resolution.resolve call).2.resolution.drawn ≤ 2 ^ (64 : Nat)) :
    ∃ content, (s.step fields Resolution.resolve call).2.Consistent fields content := by
  have taken := s.steps fields call
  generalize (s.step fields Resolution.resolve call).2 = s' at taken fits
  cases taken with
  | grow grows => exact ⟨content, consistent.grow grows⟩
  | put draws => exact ⟨_, consistent.put draws fits _⟩
  | resolve present => exact ⟨content, consistent.resolve present⟩

theorem drawn_step_le (call : Call) :
    s.resolution.drawn ≤ (s.step fields Resolution.resolve call).2.resolution.drawn := by
  have taken := s.steps fields call
  generalize (s.step fields Resolution.resolve call).2 = s' at taken
  cases taken with
  | grow grows => exact grows.drawn
  | put draws => exact draws.drawn
  | @resolve _ registry reference inUse =>
    obtain same | ⟨_, _, _, _, _, _, new⟩ :=
      s.resolution.resolve_remembers inUse reference.slot? (reference.field fields) registry
    · exact Nat.le_of_eq (congrArg Resolution.drawn same).symm
    · exact Nat.le_of_eq (congrArg Resolution.drawn new).symm

theorem drawn_run_le (calls : List Call) :
    s.resolution.drawn ≤ (s.run fields Resolution.resolve calls).2.resolution.drawn := by
  induction calls generalizing s with
  | nil => exact Nat.le_refl _
  | cons call rest ih => exact Nat.le_trans (drawn_step_le call) ih

/-- Without what the fields remember. -/
def forgotten (s : Registries) : Registries := { s with resolution := s.resolution.forgotten }

/-- No call shows what the fields remember. -/
theorem step_forgotten (consistent : s.Consistent fields content) (call : Call) :
    s.forgotten.step fields Resolver.direct call = ((s.step fields Resolution.resolve call).1,
      (s.step fields Resolution.resolve call).2.forgotten) := by
  cases call with
  | build schema => rfl
  | create name => rfl
  | read name text =>
    rw [step, step, forgotten, Resolution.registryOfText_forgotten]
    rcases s.resolution.registryOfText text with ⟨error | registry, resolution⟩ <;> rfl
  | clone name source =>
    rw [step, step, forgotten]
    cases s.named.get? source <;> rfl
  | register name schema =>
    rw [step, step, forgotten]
    cases s.named.get? name <;> rfl
  | get name entity =>
    rw [step, step, forgotten]
    cases s.named.get? name <;> rfl
  | resolve reference name inUse =>
    rw [step, step, forgotten]
    cases present : s.named.get? name with
    | none => rfl
    | some registry =>
      have kept := s.resolution.forgotten_resolve inUse reference.slot? (reference.field fields) registry
      dsimp only
      rw [consistent.resolve_eq present, forgotten, kept]
      rfl

theorem Consistent.run (consistent : s.Consistent fields content) (calls : List Call)
    (fits : (s.run fields Resolution.resolve calls).2.resolution.drawn ≤ 2 ^ (64 : Nat)) :
    ∃ content, (s.run fields Resolution.resolve calls).2.Consistent fields content := by
  induction calls generalizing s content with
  | nil => exact ⟨content, consistent⟩
  | cons call rest ih =>
    obtain ⟨_, next⟩ := consistent.step (Nat.le_trans (drawn_run_le rest) fits)
    exact ih next fits

theorem run_forgotten (consistent : s.Consistent fields content) (calls : List Call)
    (fits : (s.run fields Resolution.resolve calls).2.resolution.drawn ≤ 2 ^ (64 : Nat)) :
    (s.forgotten.run fields Resolver.direct calls).1 = (s.run fields Resolution.resolve calls).1 := by
  induction calls generalizing s content with
  | nil => rfl
  | cons call rest ih =>
    obtain ⟨_, next⟩ := consistent.step (Nat.le_trans (drawn_run_le rest) fits)
    rw [run, run, step_forgotten consistent]
    exact congrArg (_ :: ·) (ih next fits)

/-- As long as keys do not start again, what the fields remember shows in no answer: all calls are
answered as if every target was looked up in the registry, and so is any field that is resolved next. -/
theorem resolution_is_lookup (fields : ReferenceSlot → Field) (calls : List Call)
    (fits : (run fields Resolution.resolve {} calls).2.resolution.drawn ≤ 2 ^ (64 : Nat)) :
    (run fields Resolution.resolve {} calls).1 = (run fields Resolver.direct {} calls).1 ∧
      ∀ name registry, (run fields Resolution.resolve {} calls).2.named.get? name = some registry →
        ∀ (reference : Reference) inUse, ((run fields Resolution.resolve {} calls).2.resolution.resolve inUse
          reference.slot? (reference.field fields) registry).1 =
            registry.targetOf (reference.field fields) := by
  have consistent : Consistent fields (fun _ => ∅) {} := consistent_empty
  obtain ⟨content, after⟩ := consistent.run calls fits
  refine ⟨(run_forgotten consistent calls fits).symm, ?_⟩
  intro name registry present reference inUse
  exact after.resolve_eq present

/-- A field that is resolved through two registries in turn, and again after the first one has
changed. -/
theorem resolution_is_lookup_of_replaced :
    ∃ user : Schema, Schema.build ⟨"User", "users", none, "id", []⟩ = .ok user ∧
      (run (fun _ => ⟨"ownerId", some "owner_id", .reference ⟨"User", "id", none⟩, false⟩)
        Resolution.resolve {} [
          .create "first", .register "first" ⟨0, user⟩, .create "second", .register "second" ⟨1, user⟩,
          .resolve (.kept ⟨2, "ownerId"⟩) "first" fun _ => true,
          .resolve (.kept ⟨2, "ownerId"⟩) "second" fun _ => true,
          .register "first" ⟨3, user⟩,
          .resolve (.kept ⟨2, "ownerId"⟩) "first" fun _ => true]).1 =
        [.done (.ok ()), .schema none, .done (.ok ()), .schema none, .target (.ok ⟨0, user⟩),
          .target (.ok ⟨1, user⟩), .schema (some ⟨0, user⟩), .target (.ok ⟨3, user⟩)] := by
  refine ⟨_, rfl, ?_⟩
  exact (resolution_is_lookup _ _ (by decide)).1.trans rfl

end Registries
end Tenancy
