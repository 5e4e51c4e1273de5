import Tenancy.Error
import Tenancy.Schema.Basic
import Tenancy.Store.Endpoint

/-! Configuration of a store: where the database is, and what its metadata tables are called. -/
namespace Tenancy

structure Config where
  databaseUrl : String
  endpoint : Option Endpoint := none
  maxConnections : Nat := 5
  idColumn : String := idName
  organizationsTable : String := "organizations"
  objectsTable : String := "objects"
  objectFieldsTable : String := "object_fields"

namespace Config

def setting (lookup : String → Option String) (key : String) : Checked String :=
  match lookup key with
  | some value => if value.isEmpty then refuse .connection (.settingMissing key) else .ok value
  | none => refuse .connection (.settingMissing key)

/-- The configuration that settings describe: an address, or else a full set of credentials. -/
def ofSettings (lookup : String → Option String) : Checked Config :=
  match (lookup "DATABASE_URL").filter (!·.isEmpty) with
  | some url => .ok { databaseUrl := url }
  | none => do
    let host ← setting lookup "DB_SECRET_HOST"
    let port ← setting lookup "DB_SECRET_PORT"
    let database ← setting lookup "DB_SECRET_DATABASE_NAME"
    let username ← setting lookup "DB_SECRET_USERNAME"
    let password ← setting lookup "DB_SECRET_PASSWORD"
    match port? port with
    | some port => return {
        databaseUrl := ""
        endpoint := some ⟨host, port, some database, some username, some password⟩ }
    | none => refuse .connection (.badPort port)

def connectTo (config : Config) : Checked Endpoint :=
  match config.endpoint with
  | some endpoint => .ok endpoint
  | none =>
    match Endpoint.ofUrl? config.databaseUrl with
    | some endpoint => .ok endpoint
    | none => refuse .connection .invalidUrl

end Config
end Tenancy
