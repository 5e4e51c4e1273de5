import Tenancy.Url.Reading

/-! Where a database is, and as whom to connect to it. -/
namespace Tenancy

open scoped Powers

structure Endpoint where
  host : String := "localhost"
  port : UInt16 := 5432
  database : Option String := none
  username : Option String := none
  password : Option String := none
deriving DecidableEq

/-- Digits that 16 bits can hold, with at most a plus sign before them. -/
def port? (text : String) : Option UInt16 :=
  (unsigned? text).bind fun n => if n < 2 ^ (16 : Nat) then some (UInt16.ofNat n) else none

namespace Endpoint

/-- The text of an escaped part of an address, and nothing for an empty part. -/
def part? (text : List Char) : Option (Option String) :=
  if text.isEmpty then some none
  else (Percent.decode? text).map fun chars => some (String.ofList chars)

/-- A host whose text starts with a slash is the path of a socket of the local host. -/
def hostOf? (host : Host) : Option String :=
  if (Percent.bytes host.text.toList).head? = some '/'.toUInt8 then
    (Percent.decode? host.text.toList).map fun _ => "localhost"
  else some host.text

def encryptionModes : List String :=
  ["disable", "allow", "prefer", "require", "verify-ca", "verify-full"]

def isNetworkAddress (text : String) : Bool :=
  (Ipv4.ofDotted? text.toList).isSome || (Ipv6.ofText? text.toList).isSome

/-- Takes a parameter of an address into account. Unknown ones, and those that do not say where the
database is, change nothing, but a known one must be well formed. -/
def withParameter? (endpoint : Endpoint) (key value : String) : Option Endpoint :=
  match key with
  | "sslmode" | "ssl-mode" =>
    if encryptionModes.contains (value.map Char.toLower) then some endpoint else none
  | "statement-cache-capacity" =>
    ((unsigned? value).filter (· < 2 ^ (64 : Nat))).map fun _ => endpoint
  | "host" =>
    if value.toList.head? = some '/' then some endpoint else some { endpoint with host := value }
  | "hostaddr" => if isNetworkAddress value then some { endpoint with host := value } else none
  | "port" => (port? value).map fun port => { endpoint with port }
  | "dbname" => some { endpoint with database := some value }
  | "user" => some { endpoint with username := some value }
  | "password" => some { endpoint with password := some value }
  | _ => some endpoint

/-- The endpoint of an address of any scheme. Its path names the database, and its parameters win
over its other parts, a later one over an earlier one. -/
def ofUrl? (text : String) : Option Endpoint := do
  let url ← Url.ofText? text
  let endpoint : Endpoint := {}
  let host ← (url.host.map hostOf?).getD (some endpoint.host)
  let port := url.port.getD endpoint.port
  let username ← part? url.username
  let password ← part? url.password
  let database ← part? (url.path.dropWhile (· = '/'))
  url.parameters.foldlM (fun endpoint (key, value) => endpoint.withParameter? key value)
    { host, port, database, username, password }

end Endpoint
end Tenancy
