import Tenancy.Url.Host

/-! Addresses of resources, in parts. -/
namespace Tenancy

/-- An address of a resource. Escapes in its parts are left as they are. -/
structure Url where
  scheme : String
  username : List Char := []
  password : List Char := []
  host : Option Host := none
  port : Option UInt16 := none
  path : List Char := []
  query : List Char := []
deriving DecidableEq

namespace Url

/-- What the scheme of an address says about its other parts. -/
inductive Family where
  | web (defaultPort : UInt16)
  | file
  | general
deriving DecidableEq

namespace Family

def ofScheme : String → Family
  | "http" | "ws" => .web 80
  | "https" | "wss" => .web 443
  | "ftp" => .web 21
  | "file" => .file
  | _ => .general

/-- Only general addresses tell a backslash from a slash. -/
def isSlash (family : Family) (c : Char) : Bool :=
  c = '/' || (c = '\\' && family ≠ .general)

end Family

/-- The fields of a query: those that are not empty, each with its text after the first equals sign.
-/
def parameters (url : Url) : List (String × String) :=
  ((splitAll (· = '&') url.query).filter (!·.isEmpty)).map fun field =>
    let (key, value) := (splitFirst? '=' field).getD (field, [])
    (String.ofList (Percent.decodeParameter key), String.ofList (Percent.decodeParameter value))

end Url
end Tenancy
