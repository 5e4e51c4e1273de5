import Tenancy.Proofs.Entity.Copying

/-! The record that an entity is written to. The identifier is a field like any other, so a loaded entity is
written to the record of the identifier that was set last, and to the record it was loaded from as long as no
other identifier was set. Copies never set it. -/
namespace Tenancy

/-- The identifier that setting a field gives to an entity of a schema. Another field, or a value that is
refused, gives none. -/
def Schema.identifierSet? (s : Schema) (selector : Selector) (value : Value) : Option (Option RecordId) :=
  match selector.resolve s with
  | .ok f => if f = s.idField then (f.coerce value).toOption.map (·.bind Value.asId?) else none
  | .error _ => none

/-- The entity that a call makes, changes or asks. -/
def Call.target : Call → String
  | .create name _ | .load name _ _ | .fill name _ _ | .clone name _ | .set name _ _ | .applyRow name _
  | .copy name _ _ | .ask name _ => name

/-- The call gives the entity of a name another row, or another entity the name. -/
def Call.Replaces (name : String) : Call → Prop
  | .create target _ | .load target _ _ | .fill target _ _ | .clone target _ | .applyRow target _ => target = name
  | _ => False

/-- The identifier that the call sets in the entity of a name. -/
def Call.identifierSet? (schema : Schema) (name : String) : Call → Option (Option RecordId)
  | .set target selector value => if target = name then schema.identifierSet? selector value else none
  | _ => none

/-- The identifier of an entity after calls: the one that was set last, or else the one before them. -/
def identifierAfter (schema : Schema) (name : String) (id : Option RecordId) (calls : List Call) : Option RecordId :=
  calls.foldl (fun id call => (call.identifierSet? schema name).getD id) id

theorem identifierAfter_eq_self {schema : Schema} {name : String} {id : Option RecordId} {calls : List Call}
    (same : ∀ call ∈ calls, ∀ set ∈ call.identifierSet? schema name, set = id) :
    identifierAfter schema name id calls = id := by
  induction calls with
  | nil => rfl
  | cons call rest ih =>
    obtain ⟨first, others⟩ := List.forall_mem_cons.mp same
    have kept : (call.identifierSet? schema name).getD id = id := by
      cases given : call.identifierSet? schema name with
      | none => rfl
      | some set => exact first set given
    rw [identifierAfter, List.foldl_cons, kept]
    exact ih others

namespace Uncached

open Function (update)

/-- An entity of a schema that has an identifier, or none. -/
structure Identified (u : Uncached) (schema : Schema) (id : Option RecordId) : Prop where
  schema : u.schema = schema
  id : u.id? = .ok id

variable {u u' : Uncached} {schema : Schema} {id : Option RecordId} {s : String → Option Uncached} {name : String}

theorem Identified.of_staged (identified : u.Identified schema id) (sameSchema : u'.schema = u.schema)
    (snapshot : u'.snapshot = u.snapshot)
    (staged : u'.staged.get? u.schema.idColumn = u.staged.get? u.schema.idColumn) : u'.Identified schema id where
  schema := sameSchema.trans identified.schema
  id := by
    rw [← identified.id, id?, id?, sameSchema]
    congr 1
    apply get_eq_of_staged sameSchema snapshot
    intro f resolved
    rw [Schema.resolve_field List.mem_cons_self] at resolved
    exact Except.ok.inj resolved ▸ staged

theorem Identified.set (identified : u.Identified schema id) {selector : Selector} {value : Value}
    (written : u.set selector value = .ok u') :
    u'.Identified schema ((schema.identifierSet? selector value).getD id) := by
  simp only [Uncached.set, bind_eq_ok_iff, pure_eq_ok_iff] at written
  obtain ⟨f, resolved, coerced, read, rfl⟩ := written
  have member := Schema.mem_of_resolve resolved
  obtain rfl := identified.schema
  rw [Schema.identifierSet?, resolved]
  by_cases identifier : f = u.schema.idField
  · have got : (u.stage f.columnName coerced).get (.field u.schema.idField) = .ok coerced := by
      apply get_of_staged (f := u.schema.idField)
      · exact Schema.resolve_field List.mem_cons_self
      · rw [identifier]
        exact OrderedMap.get?_insert_self ..
    refine ⟨rfl, ?_⟩
    dsimp only
    rw [if_pos identifier, read, id?]
    exact congrArg _ got
  · have other : u.schema.idColumn ≠ f.columnName := by
      intro same
      exact identifier (Schema.eq_of_columnName_eq member List.mem_cons_self same.symm)
    dsimp only
    rw [if_neg identifier]
    exact identified.of_staged rfl rfl (OrderedMap.get?_insert_ne _ other _)

theorem identifierSet?_of_refused {selector : Selector} {value : Value} {error : DataError}
    (refused : u.set selector value = .error error) : u.schema.identifierSet? selector value = none := by
  rw [Schema.identifierSet?]
  cases resolved : selector.resolve u.schema with
  | error error => rfl
  | ok f =>
    rw [Uncached.set, resolved, ok_bind] at refused
    cases read : f.coerce value with
    | error error => simp [read, Except.toOption]
    | ok coerced =>
      rw [read] at refused
      cases refused

theorem Identified.copyFrom (identified : u.Identified schema id) (source : Uncached) (onlyChanges : Bool) :
    (u.copyFrom source onlyChanges).2.Identified schema id := by
  rw [Uncached.copyFrom]
  split
  · rw [copyColumns_eq]
    apply identified.of_staged (takeOver_schema _) (takeOver_snapshot _)
    rw [get?_takeOver, if_neg]
    intro member
    have copied := (List.takeWhile_sublist _).subset member
    simp [Schema.copied, Schema.idField, Field.identifier, Field.columnName] at copied
  · exact identified

/-- A call leaves all entities but its target as they were. -/
theorem step_other {call : Call} (other : call.target ≠ name) : (kind.step s call).2 name = s name := by
  have apart (s : String → Option Uncached) (e : Uncached) : update s call.target (some e) name = s name :=
    Function.update_of_ne (Ne.symm other) ..
  cases call with
  | create | load => exact apart ..
  | fill | clone | applyRow | ask =>
    rw [EntityKind.step]
    split
    · exact apart ..
    · rfl
  | set =>
    rw [EntityKind.step]
    split
    · split
      · exact apart ..
      · rfl
    · rfl
  | copy target source _ =>
    rw [EntityKind.step]
    split
    · rename_i found
      refine (apart ..).trans ?_
      exact (congrFun (found ▸ Function.update_eq_self source s) name)
    · rfl

/-- The entity of a name is of a schema, and has an identifier or none. -/
def IdentifiedAt (s : String → Option Uncached) (name : String) (schema : Schema) (id : Option RecordId) : Prop :=
  ∃ u, s name = some u ∧ u.Identified schema id

theorem Identified.update (identified : u.Identified schema id) (s : String → Option Uncached) (name : String) :
    IdentifiedAt (update s name (some u)) name schema id :=
  ⟨u, Function.update_self .., identified⟩

theorem IdentifiedAt.step (located : IdentifiedAt s name schema id) {call : Call} (kept : ¬ call.Replaces name) :
    IdentifiedAt (kind.step s call).2 name schema ((call.identifierSet? schema name).getD id) := by
  have ⟨u, present, identified⟩ := located
  by_cases own : call.target = name
  -- Of the calls on the entity itself, only a set can give it another identifier.
  · cases call with
    | create | load | fill | clone | applyRow => exact absurd own kept
    | set target selector value =>
      obtain rfl : target = name := own
      rw [EntityKind.step, Call.identifierSet?, present, if_pos rfl]
      dsimp only
      cases written : kind.set u selector value with
      | error error =>
        have unset := identifierSet?_of_refused (u := u) written
        rw [identified.schema] at unset
        rw [unset]
        exact located
      | ok u' => exact (identified.set written).update s target
    | copy target source onlyChanges =>
      obtain rfl : target = name := own
      rw [EntityKind.step, present]
      cases s source with
      | none => exact located
      | some origin => exact (identified.copyFrom origin onlyChanges).update _ target
    | ask target question =>
      obtain rfl : target = name := own
      rw [EntityKind.step, present]
      exact identified.update s target
  · have unset : call.identifierSet? schema name = none := by
      cases call with
      | set => exact if_neg own
      | _ => rfl
    rw [unset]
    exact ⟨u, (step_other own).trans present, identified⟩

theorem IdentifiedAt.run (located : IdentifiedAt s name schema id) {calls : List Call}
    (kept : ∀ call ∈ calls, ¬ call.Replaces name) :
    IdentifiedAt (kind.run s calls).2 name schema (identifierAfter schema name id calls) := by
  induction calls generalizing s id with
  | nil => exact located
  | cons call rest ih =>
    obtain ⟨first, others⟩ := List.forall_mem_cons.mp kept
    exact ih (located.step first) others

theorem identified_ofRow {row : Record} {id : RecordId} (stored : row.get? schema.idColumn = some (.string id.text)) :
    (ofRow schema row).Identified schema (some id) where
  schema := rfl
  id := by
    have got : (ofRow schema row).get (.field schema.idField) = .ok (some (.id id)) := by
      have unwritten : (ofRow schema row).staged.get? schema.idField.columnName = none := rfl
      have present : (ofRow schema row).snapshot.bind (·.get? schema.idField.columnName) = some (.string id.text) := stored
      have coerced : Coerce.toId idName (.string id.text) = .ok id := by
        rw [Coerce.toId, RecordId.ofString?_text]
      rw [get, show (ofRow schema row).schema = schema from rfl, Schema.resolve_field List.mem_cons_self, ok_bind,
        unwritten]
      dsimp only
      rw [present]
      exact congrArg (fun made => (Except.map Value.id made).map some) coerced
    exact congrArg (Except.map fun value => value.bind Value.asId?) got

end Uncached

namespace Entity

/-- The record that the changes and the deletion of an entity name by its identifier. Without one, both are
refused. -/
def WritesTo (e : Entity) : Option RecordId → Prop
  | some id =>
    e.updateRecord.1 = .ok ⟨⟨.value (.string e.schema.idColumn), .eq, .value (.string id.text)⟩,
      e.dirtyRecord.erase e.schema.idColumn⟩ ∧
    e.deleteRecord.1 = .ok ⟨.value (.string e.schema.idColumn), .eq, .value (.string id.text)⟩
  | none =>
    e.updateRecord.1 = refuse .missingIdentifier (.noId e.schema.name) ∧
    e.deleteRecord.1 = refuse .missingIdentifier (.noId e.schema.name)

theorem WritesTo.unique {e : Entity} {id id' : Option RecordId} (first : e.WritesTo id) (second : e.WritesTo id') :
    id = id' := by
  cases id with
  | none =>
    cases id' with
    | none => rfl
    | some id' => cases first.2.symm.trans second.2
  | some id =>
    cases id' with
    | none => cases first.2.symm.trans second.2
    | some id' =>
      have text : id.text = id'.text := by simpa using first.2.symm.trans second.2
      rw [← RecordId.ofString?_text id, text, RecordId.ofString?_text]

theorem writesTo_of_identified {e : Entity} {schema : Schema} {id : Option RecordId} (coherent : e.Coherent)
    (identified : e.uncached.Identified schema id) : e.WritesTo id := by
  have read := identified.id
  cases id with
  | none =>
    have required : e.uncached.requireId = refuse .missingIdentifier (.noId e.schema.name) := by
      rw [Uncached.requireId, read]
      rfl
    constructor
    · rw [coherent.updateRecord, Uncached.updateRecord, required]
      rfl
    · rw [coherent.deleteRecord, Uncached.deleteRecord, required]
      rfl
  | some id =>
    have required : e.uncached.requireId = .ok id := by
      rw [Uncached.requireId, read]
      rfl
    constructor
    · rw [coherent.updateRecord, Uncached.updateRecord, required, dirtyRecord_eq]
      rfl
    · rw [coherent.deleteRecord, Uncached.deleteRecord, required]
      rfl

/-- A loaded entity is written to the record of the identifier that was set last, and without an identifier if
that one is unset. As long as no other identifier is set, it is written to the record that it was loaded from,
whatever is read, set and copied. -/
theorem writes_to_last_identifier (schema : Schema) (row : Record) (id : RecordId)
    (stored : row.get? schema.idColumn = some (.string id.text)) (name : String) (before after : List Call)
    (kept : ∀ call ∈ after, ¬ call.Replaces name) :
    ∃ e, (kind.run (fun _ => none) (before ++ .load name schema row :: after)).2 name = some e ∧
      e.schema = schema ∧ e.WritesTo (identifierAfter schema name (some id) after) ∧
      ((∀ call ∈ after, ∀ set ∈ call.identifierSet? schema name, set = some id) → e.WritesTo (some id)) := by
  have empty : EntityKind.All Coherent fun _ => none := fun _ _ member => nomatch member
  have simulated : (Uncached.kind.run (fun _ => none) (before ++ .load name schema row :: after)).2 =
      Option.map uncached ∘ (kind.run (fun _ => none) (before ++ .load name schema row :: after)).2 :=
    congrArg Prod.snd (simulates_uncached.run empty _)
  have loaded := (Uncached.identified_ofRow stored).update (Uncached.kind.run (fun _ => none) before).2 name
  obtain ⟨u, present, identified⟩ := loaded.run kept
  have same : (Uncached.kind.run (fun _ => none) (before ++ .load name schema row :: after)).2 name = some u := by
    rw [EntityKind.run_append, EntityKind.run_cons]
    exact present
  rw [simulated] at same
  obtain ⟨e, found, rfl⟩ := Option.map_eq_some_iff.mp same
  have coherent := Reachable.coherent ⟨_, name, found⟩
  refine ⟨e, found, identified.schema, writesTo_of_identified coherent identified, fun unmoved => ?_⟩
  rw [← identifierAfter_eq_self unmoved]
  exact writesTo_of_identified coherent identified

/-- A copy does not move the entity, an identifier that it is given does, and one that is refused does not. -/
theorem writes_to_last_identifier_of_copied :
    ∃ (schema : Schema) (own given : RecordId), own.text = "a00aaaaaaaaaaaa" ∧ given.text = "b00bbbbbbbbbbbb" ∧
      Schema.build ⟨"User", "users", none, "id", [{ name := "age", type := .integer }]⟩ = .ok schema ∧
      (∃ e, (kind.run (fun _ => none) [.load "b" schema ⟨[("id", .string given.text), ("age", .ofInt 30)]⟩,
        .load "a" schema ⟨[("id", .string own.text)]⟩, .copy "a" "b" false]).2 "a" = some e ∧
        e.WritesTo (some own)) ∧
      ∃ e, (kind.run (fun _ => none) [.load "a" schema ⟨[("id", .string own.text)]⟩,
        .set "a" (.name "id") (.string given.text), .set "a" (.name "id") (.string "short")]).2 "a" = some e ∧
        e.WritesTo (some given) := by
  have written {schema : Schema} {row : Record} {own last : RecordId} {after : List Call} (before : List Call)
      (stored : row.get? schema.idColumn = some (.string own.text)) (kept : ∀ call ∈ after, ¬ call.Replaces "a")
      (given : identifierAfter schema "a" (some own) after = some last) :
      ∃ e, (kind.run (fun _ => none) (before ++ .load "a" schema row :: after)).2 "a" = some e ∧
        e.WritesTo (some last) := by
    obtain ⟨e, found, -, writes, -⟩ := writes_to_last_identifier schema row own stored "a" before after kept
    exact ⟨e, found, given ▸ writes⟩
  refine ⟨_, ⟨"a00aaaaaaaaaaaa", rfl⟩, ⟨"b00bbbbbbbbbbbb", rfl⟩, rfl, rfl, rfl, ?_, ?_⟩
  · exact written [_] rfl (by simp [Call.Replaces]) rfl
  · exact written [] rfl (by simp [Call.Replaces]) rfl

/-- An entity whose identifier was set is written to another record than its row. -/
theorem other_record_written :
    ∃ (schema : Schema) (e : Entity),
      Schema.build ⟨"User", "users", none, "id", [{ name := "age", type := .integer }]⟩ = .ok schema ∧
      (kind.run (fun _ => none) [.load "u" schema ⟨[("id", .string "a00aaaaaaaaaaaa"), ("age", .ofInt 30)]⟩,
          .set "u" (.name "age") (.integer 31), .set "u" (.name "id") (.string "b00bbbbbbbbbbbb")]).2 "u" = some e ∧
      e.updateRecord.1 = .ok ⟨⟨.value (.string "id"), .eq, .value (.string "b00bbbbbbbbbbbb")⟩,
        ⟨[("age", .ofInt 31)]⟩⟩ ∧
      e.deleteRecord.1 = .ok ⟨.value (.string "id"), .eq, .value (.string "b00bbbbbbbbbbbb")⟩ ∧
      ¬ e.WritesTo (some ⟨"a00aaaaaaaaaaaa", rfl⟩) := by
  refine ⟨_, _, rfl, rfl, rfl, rfl, ?_⟩
  intro own
  have moved := own.unique (show WritesTo _ (some ⟨"b00bbbbbbbbbbbb", rfl⟩) from ⟨rfl, rfl⟩)
  exact absurd moved (by decide)

end Entity
end Tenancy
