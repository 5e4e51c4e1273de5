import Tenancy.Numeral.Layout
import Tenancy.RecordId
import Tenancy.Sql.Literal
import Tenancy.Sql.Name
import Tenancy.Text.Printable
import Tenancy.Wire

/-! What can go wrong while tenant data is described, checked, compiled or exchanged. An error has a
kind, which says what sort of thing failed, and a cause, which says what exactly. -/
namespace Tenancy

inductive DataError.Kind where
  | format
  | typeMismatch
  | unknownField
  | unknownTable
  | invalidArgument
  | missingIdentifier
  | alreadyHasIdentifier
  | duplicateRecord
  | invalidWhereClause
  | unknownOrganization
  | unresolvedReference
  | recordNotFound
  | invalidQuery
  | invalidResponse
  | connection
  | sql
  | json
deriving DecidableEq

namespace DataError.Kind

def heading : Kind → String
  | .format => "Format error"
  | .typeMismatch => "Type mismatch"
  | .unknownField => "Unknown field"
  | .unknownTable => "Unknown table"
  | .invalidArgument => "Invalid argument"
  | .missingIdentifier => "Record has no identifier"
  | .alreadyHasIdentifier => "Record already has an identifier"
  | .duplicateRecord => "Duplicate record in batch"
  | .invalidWhereClause => "Invalid where clause"
  | .unknownOrganization => "Unknown organization"
  | .unresolvedReference => "Unresolved reference"
  | .recordNotFound => "Record not found"
  | .invalidQuery => "Invalid query"
  | .invalidResponse => "Invalid database response"
  | .connection => "Connection error"
  | .sql => "SQL error"
  | .json => "JSON serialization error"

/-- Validation, as opposed to what comes from the exchange itself. That an organization is unknown
counts as validation, though it takes an exchange to find out. -/
def isValidation : Kind → Bool
  | .recordNotFound | .invalidResponse | .connection | .sql | .json => false
  | _ => true

end DataError.Kind

/-- Numbers in messages are written without an exponent. -/
def messageNumberLayout : NumberLayout where
  lowest := none
  highest := none
  wholeSuffix := ""
  signedZero := true
  tie := .up
  nan := "NaN"
  infinite := "inf"

inductive DataError.Cause where
  | other (message : String)
  | invalidId (text : String)
  | invalidFieldId (field text : String)
  | unreadable (text type field : String)
  | integerOutOfRange (number : Binary64) (field : String)
  | notFinite (field : String)
  | unreadableDate (text field : String)
  | epochOutOfRange (millis : Int) (field : String)
  | wrongKind (expected field kind : String)
  | badName (fault : Sql.NameFault)
  | badLiteral (fault : Sql.LiteralFault)
  | noField (field entity : String)
  | foreignField (field column entity : String)
  | noColumn (column table : String)
  | noTable (table organization : String)
  | emptyEntityName
  | namelessField (entity : String)
  | fieldTwice (field entity : String)
  | columnTwice (column entity : String)
  | noForeignObject (field : String)
  | unknownType (type field : String)
  | notReference (field : String)
  | limitNotPositive (limit : Int)
  | noOrganization
  | copyAcross (source target : String)
  | mixedTables (first second : String)
  | noId (entity : String)
  | insertWithId (entity : String) (id : RecordId)
  | recordTwice (id : RecordId)
  | notAnId (text : String)
  | notIdFilter (table idColumn : String)
  | noSuchOrganization (organization : String)
  | unresolved (entity field : String)
  | notFound (id : RecordId)
  | unknownOperator (text : String)
  | malformedQuery (fault : Wire.Fault)
  | malformedJson (fault : Wire.Fault)
  | needsConditions (operator : String)
  | leftNotColumn (value : Json)
  | nothingToSet (table : String)
  | fixedColumn (column : String)
  | noSchema (table : String)
  | columnRepeated (table column : String)
  | incompleteField (table : String) (name type : Option String)
  | noCountColumn
  | invalidCount (value : Json)
  | insertedRows (table : String) (count : Nat)
  | settingMissing (key : String)
  | badPort (text : String)
  | invalidUrl

/-- A heading and, after a colon, what may be added to it. -/
def withDetail (heading : String) : Option String → String
  | some detail => heading ++ ": " ++ detail
  | none => heading

namespace DataError.Cause

def message : Cause → String
  | .other message => message
  | .invalidId text => "Invalid id: '" ++ text ++ "'"
  | .invalidFieldId field text =>
    "Field '" ++ field ++ "': Format error: Invalid id: '" ++ text ++ "'"
  | .unreadable text type field =>
    "Cannot convert '" ++ text ++ "' to " ++ type ++ " for field '" ++ field ++ "'"
  | .integerOutOfRange number field =>
    "Value " ++ messageNumberLayout.text number ++ " is out of range for integer field '" ++ field
      ++ "'"
  | .notFinite field => "Value of number field '" ++ field ++ "' must be finite"
  | .unreadableDate text field =>
    "Value '" ++ text ++ "' can not be stored in date field '" ++ field ++ "'"
  | .epochOutOfRange millis field =>
    "Epoch value " ++ integerText millis ++ " is out of range for date field '" ++ field ++ "'"
  | .wrongKind expected field kind =>
    "Value of " ++ expected ++ " field '" ++ field ++ "' must be a " ++ expected ++ ", got " ++ kind
  | .badName fault => fault.message
  | .badLiteral fault => fault.message
  | .noField field entity => "Field '" ++ field ++ "' does not exist on entity '" ++ entity ++ "'"
  | .foreignField field column entity =>
    "Field '" ++ field ++ "' (" ++ column ++ ") does not belong to entity '" ++ entity ++ "'"
  | .noColumn column table => "Field '" ++ column ++ "' does not exist on table '" ++ table ++ "'"
  | .noTable table organization =>
    "Table '" ++ table ++ "' does not exist for organization '" ++ organization ++ "'"
  | .emptyEntityName => "Entity name must not be empty"
  | .namelessField entity => "Entity '" ++ entity ++ "' declares a field without a name"
  | .fieldTwice field entity =>
    "Field '" ++ field ++ "' is declared twice on entity '" ++ entity ++ "'"
  | .columnTwice column entity =>
    "Column '" ++ column ++ "' is mapped twice on entity '" ++ entity ++ "'"
  | .noForeignObject field => "Reference field '" ++ field ++ "' has no foreignObject"
  | .unknownType type field => "Unknown type '" ++ type ++ "' for field '" ++ field ++ "'"
  | .notReference field => "Field '" ++ field ++ "' is not a reference"
  | .limitNotPositive limit => "Limit must be a positive integer, got " ++ integerText limit
  | .noOrganization => "No organization id provided"
  | .copyAcross source target =>
    "Cannot copy a '" ++ source ++ "' entity into a '" ++ target ++ "' entity"
  | .mixedTables first second => "Batch mixes tables '" ++ first ++ "' and '" ++ second ++ "'"
  | .noId entity => "'" ++ entity ++ "' record has no id"
  | .insertWithId entity id =>
    "Cannot insert '" ++ entity ++ "' record " ++ id.text ++ " that already has an id"
  | .recordTwice id => "Record " ++ id.text ++ " appears more than once in the batch"
  | .notAnId text => "'" ++ text ++ "' is not a valid id"
  | .notIdFilter table idColumn =>
    "Where clause on '" ++ table ++ "' must be exactly " ++ idColumn ++ " = <id>"
  | .noSuchOrganization organization => organization
  | .unresolved entity field =>
    "Could not resolve entity '" ++ entity ++ "' referenced by field '" ++ field ++ "'"
  | .notFound id => id.text
  | .unknownOperator text => "Unknown operator '" ++ text ++ "'"
  | .malformedQuery fault => withDetail "Malformed query" fault.detail
  | .malformedJson fault => fault.detail.getD ""
  | .needsConditions operator => operator ++ " requires a condition on both sides"
  | .leftNotColumn value => "Left side of a condition must be a column name, got " ++ value.text
  | .nothingToSet table => "Update of '" ++ table ++ "' has no columns to set"
  | .fixedColumn column => "Column '" ++ column ++ "' cannot be updated"
  | .noSchema table => "Select over '" ++ table ++ "' has no entity schema to load rows into"
  | .columnRepeated table column =>
    "Table '" ++ table ++ "' already has field named '" ++ column ++ "'"
  | .incompleteField table name type =>
    "Incomplete field metadata on table '" ++ table ++ "': name " ++ Text.optional name ++ ", type "
      ++ Text.optional type
  | .noCountColumn => "Count query returned no 'count' column"
  | .invalidCount value => "Invalid count value " ++ value.text
  | .insertedRows table count =>
    "Insert into '" ++ table ++ "' returned " ++ decimalText count ++ " rows, expected 1"
  | .settingMissing key => "Database " ++ key ++ " is not set"
  | .badPort text => "Database port '" ++ text ++ "' is not a number"
  | .invalidUrl => "Invalid database URL"

/-- What a message says beyond the kind of the error; on JSON of a wrong shape it says no more. -/
def detail : Cause → Option String
  | .malformedJson fault => fault.detail
  | cause => some cause.message

end DataError.Cause

structure DataError where
  kind : DataError.Kind
  cause : DataError.Cause

namespace DataError

def message (e : DataError) : String := withDetail e.kind.heading e.cause.detail

def isValidation (e : DataError) : Bool := e.kind.isValidation

end DataError

/-- Results of operations on tenant data. -/
abbrev Checked (α : Type) := Except DataError α

/-- Fails with an error of a kind and a cause. -/
def refuse {α : Type} (kind : DataError.Kind) (cause : DataError.Cause) : Checked α :=
  .error ⟨kind, cause⟩

/-- Checks a name, a bad one being an error of the given kind. -/
def checkName (kind : DataError.Kind) (name : String) : Checked Unit :=
  match Sql.checkName name with
  | .ok () => .ok ()
  | .error fault => refuse kind (.badName fault)

theorem checkName_eq_ok_iff {kind : DataError.Kind} {name : String} :
    checkName kind name = .ok () ↔ Sql.isName name = true := by
  rw [← Sql.checkName_eq_ok_iff]
  unfold checkName
  cases Sql.checkName name <;> simp [refuse]

/-- What was decoded, a fault being an error of the JSON it came from. -/
def decoded {α : Type} : Except Wire.Fault α → Checked α
  | .ok value => .ok value
  | .error fault => refuse .json (.malformedJson fault)

end Tenancy
