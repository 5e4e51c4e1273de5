import Tenancy.Entity.Basic

/-! Copying values from one entity to another of the same name. -/
namespace Tenancy.Entity

/-- The two entities after a copy, and how it ended. -/
structure CopyOutcome where
  result : Checked Unit
  target : Entity
  source : Entity

/-- The columns to copy: those of the snapshot unless only changes are wanted, then the written
ones. -/
def copiedColumns (source : Entity) (onlyChanges : Bool) : List String :=
  let loaded := if onlyChanges then [] else (source.snapshot.getD ∅).keys
  (loaded ++ source.dirty).foldl addColumn []

/-- Copies columns one by one up to the first that cannot be read; what was copied before it stays.
-/
def copyColumns (idColumn : String) : List String → Entity → Entity → CopyOutcome
  | [], target, source => ⟨.ok (), target, source⟩
  | column :: rest, target, source =>
    if column = idColumn then copyColumns idColumn rest target source
    else
      match source.schema.fieldByColumn? column with
      | none => copyColumns idColumn rest target source
      | some f =>
        match source.get (.field f) with
        | (.error error, source) => ⟨.error error, target, source⟩
        | (.ok value, source) => copyColumns idColumn rest (target.stage column value) source

def copyFrom (target source : Entity) (onlyChanges : Bool) : CopyOutcome :=
  if target.schema.name = source.schema.name then
    copyColumns target.schema.idField.columnName (source.copiedColumns onlyChanges) target source
  else
    ⟨refuse .invalidArgument (.copyAcross source.schema.name target.schema.name), target, source⟩

end Tenancy.Entity
