import Tenancy.Field.Basic

/-! Schemas of entities: the identifier field, then the declared fields. Names are given and differ,
and columns are plain names and differ, in every schema; the checks that guard this name the first
field at fault. -/
namespace Tenancy

/-- The name, and usually the column, of the identifier field. -/
def idName : String := "id"

def Field.identifier (column : String) : Field := ⟨idName, some column, .id, false⟩

/-- Fields that can stand together in a schema, after fields of the given names and columns. -/
structure Schema.Sound (names columns : List String) (fields : List Field) : Prop where
  named : ∀ f ∈ fields, f.name ≠ ""
  columns_plain : ∀ f ∈ fields, Sql.isName f.columnName = true
  names_fresh : ∀ f ∈ fields, f.name ∉ names
  columns_fresh : ∀ f ∈ fields, f.columnName ∉ columns
  names_differ : (fields.map Field.name).Nodup
  columns_differ : (fields.map Field.columnName).Nodup

structure Schema where
  name : String
  table : String
  tableSpace : Option String
  idColumn : String
  declared : List Field
  named : name ≠ ""
  table_plain : Sql.isName table = true
  sound : Schema.Sound [] [] (Field.identifier idColumn :: declared)

/-- What a schema is made from. -/
structure Schema.Plan where
  name : String
  table : String
  tableSpace : Option String := none
  idColumn : String := idName
  fields : List Field := []

namespace Schema

def idField (s : Schema) : Field := .identifier s.idColumn

def fields (s : Schema) : List Field := s.idField :: s.declared

def columns (s : Schema) : List String := s.fields.map Field.columnName

/-- The field of a logical name. -/
def field (s : Schema) (name : String) : Checked Field :=
  match s.fields.find? (fun f => f.name = name) with
  | some f => .ok f
  | none => refuse .unknownField (.noField name s.name)

def fieldByColumn? (s : Schema) (column : String) : Option Field :=
  s.fields.find? fun f => f.columnName = column

/-- Checks a field against the names and columns of the fields before it. -/
def checkField (entity : String) (names columns : List String) (f : Field) : Checked Unit :=
  if f.name = "" then refuse .invalidArgument (.namelessField entity)
  else
    match checkName .invalidArgument f.columnName with
    | .error error => .error error
    | .ok () =>
      if f.name ∈ names then refuse .invalidArgument (.fieldTwice f.name entity)
      else if f.columnName ∈ columns then refuse .invalidArgument (.columnTwice f.columnName entity)
      else .ok ()

/-- Checks fields one after the other, after fields of the given names and columns. -/
def checkFields (entity : String) : List String → List String → List Field → Checked Unit
  | _, _, [] => .ok ()
  | names, columns, f :: rest =>
    match checkField entity names columns f with
    | .error error => .error error
    | .ok () => checkFields entity (f.name :: names) (f.columnName :: columns) rest

theorem checkField_eq_ok_iff (entity : String) {names columns : List String} {f : Field} :
    checkField entity names columns f = .ok () ↔
      f.name ≠ "" ∧ Sql.isName f.columnName = true ∧ f.name ∉ names ∧ f.columnName ∉ columns := by
  unfold checkField
  split
  · rename_i nameless
    simp [refuse, nameless]
  · rename_i named
    cases checked : checkName .invalidArgument f.columnName with
    | error error =>
      have plain : ¬ Sql.isName f.columnName = true := fun plain => by
        rw [checkName_eq_ok_iff.2 plain] at checked
        cases checked
      simp [plain]
    | ok _ =>
      have plain := checkName_eq_ok_iff.1 checked
      by_cases known : f.name ∈ names <;> by_cases mapped : f.columnName ∈ columns <;>
        simp [refuse, named, plain, known, mapped]

theorem Sound.cons_iff {names columns : List String} {f : Field} {rest : List Field} :
    Sound names columns (f :: rest) ↔
      (f.name ≠ "" ∧ Sql.isName f.columnName = true ∧ f.name ∉ names ∧ f.columnName ∉ columns) ∧
        Sound (f.name :: names) (f.columnName :: columns) rest := by
  constructor
  · rintro ⟨named, plain, namesFresh, columnsFresh, namesDiffer, columnsDiffer⟩
    simp only [List.map_cons, List.nodup_cons, List.mem_map, not_exists, not_and]
      at namesDiffer columnsDiffer
    simp only [List.forall_mem_cons] at named plain namesFresh columnsFresh
    refine ⟨⟨named.1, plain.1, namesFresh.1, columnsFresh.1⟩, named.2, plain.2, ?_, ?_,
      namesDiffer.2, columnsDiffer.2⟩
    · intro g member
      simpa using ⟨namesDiffer.1 g member, namesFresh.2 g member⟩
    · intro g member
      simpa using ⟨columnsDiffer.1 g member, columnsFresh.2 g member⟩
  · rintro ⟨⟨named, plain, nameFresh, columnFresh⟩, rest⟩
    refine ⟨?_, ?_, ?_, ?_, ?_, ?_⟩
    · simpa using ⟨named, rest.named⟩
    · simpa using ⟨plain, rest.columns_plain⟩
    · refine List.forall_mem_cons.2 ⟨nameFresh, fun g member => ?_⟩
      exact fun known => rest.names_fresh g member (List.mem_cons_of_mem _ known)
    · refine List.forall_mem_cons.2 ⟨columnFresh, fun g member => ?_⟩
      exact fun known => rest.columns_fresh g member (List.mem_cons_of_mem _ known)
    · rw [List.map_cons, List.nodup_cons]
      refine ⟨fun member => ?_, rest.names_differ⟩
      obtain ⟨g, member, same⟩ := List.mem_map.1 member
      exact rest.names_fresh g member (same ▸ List.mem_cons_self)
    · rw [List.map_cons, List.nodup_cons]
      refine ⟨fun member => ?_, rest.columns_differ⟩
      obtain ⟨g, member, same⟩ := List.mem_map.1 member
      exact rest.columns_fresh g member (same ▸ List.mem_cons_self)

theorem Sound.nil (names columns : List String) : Sound names columns [] :=
  ⟨by simp, by simp, by simp, by simp, .nil, .nil⟩

theorem checkFields_eq_ok_iff {entity : String} {names columns : List String}
    {fields : List Field} :
    checkFields entity names columns fields = .ok () ↔ Sound names columns fields := by
  induction fields generalizing names columns with
  | nil => simp [checkFields, Sound.nil]
  | cons f rest ih =>
    rw [Sound.cons_iff, ← checkField_eq_ok_iff entity, ← ih, checkFields]
    cases checkField entity names columns f <;> simp

def build (plan : Plan) : Checked Schema :=
  if named : plan.name = "" then refuse .invalidArgument .emptyEntityName
  else
    match table : checkName .invalidArgument plan.table with
    | .error error => .error error
    | .ok () =>
      match fields : checkFields plan.name [] [] (.identifier plan.idColumn :: plan.fields) with
      | .error error => .error error
      | .ok () => .ok ⟨plan.name, plan.table, plan.tableSpace, plan.idColumn, plan.fields, named,
          checkName_eq_ok_iff.1 table, checkFields_eq_ok_iff.1 fields⟩

end Schema

/-- How a caller names a field of a schema: by its logical name, or by a field of the same name and
column. -/
inductive Selector where
  | name (name : String)
  | field (f : Field)

def Selector.resolve (s : Schema) : Selector → Checked Field
  | .name text => s.field text
  | .field f => do
    let found ← s.field f.name
    if found.columnName = f.columnName then return found
    else refuse .unknownField (.foreignField f.name f.columnName s.name)

end Tenancy
