import Tenancy.Field.Coerce

/-! Fields of an entity: a logical name, the column that stores it, and a type. -/
namespace Tenancy

structure Field where
  name : String
  /-- The column, if it is not named like the field. -/
  column : Option String := none
  type : FieldType
  required : Bool := false
deriving DecidableEq

namespace Field

def columnName (f : Field) : String := f.column.getD f.name

def target? (f : Field) : Option ReferenceTarget :=
  match f.type with
  | .reference target => some target
  | _ => none

/-- Sets the column that a reference looks its target up by; other fields have none. -/
def withLookupColumn (column : String) (f : Field) : Field :=
  match f.type with
  | .reference target => { f with type := .reference { target with lookupColumn := column } }
  | _ => f

/-- Names the relation back from the target of a reference; other fields have none. -/
def withInverseRelation (relation : String) (f : Field) : Field :=
  match f.type with
  | .reference target =>
    { f with type := .reference { target with inverseRelation := some relation } }
  | _ => f

/-- Coerces a value to the type of the field; null is unset whatever the type. -/
def coerce (f : Field) (value : Value) : Checked (Option Value) :=
  if value.isNull then .ok none else (f.type.coerce f.name value).map some

end Field
end Tenancy
