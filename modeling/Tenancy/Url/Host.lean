import Tenancy.Text.Utf8
import Tenancy.Url.Ipv6
import Tenancy.Url.Label

/-! Hosts of addresses. A general host is kept as written but for controls, while the host of a web
address is a name in lower case or an address in numbers. -/
namespace Tenancy

inductive Host where
  | name (text : String)
  | ipv4 (address : Ipv4)
  | ipv6 (address : Ipv6)
deriving DecidableEq

namespace Host

def text : Host → String
  | .name text => text
  | .ipv4 address => address.text
  | .ipv6 address => "[" ++ address.text ++ "]"

/-- Characters that have a meaning elsewhere in an address. -/
def isReserved (c : Char) : Bool :=
  [' ', '#', '/', ':', '<', '>', '?', '@', '[', '\\', ']', '^', '|'].contains c

/-- The address between an opening bracket that is already read and a closing one at the end. -/
def ofBrackets? (text : List Char) : Option Host :=
  match splitLast? ']' text with
  | some (address, []) => (Ipv6.ofText? address).map .ipv6
  | _ => none

def ofGeneral? : List Char → Option Host
  | '[' :: rest => ofBrackets? rest
  | text =>
    if text.any fun c => isReserved c || c = '\x00' then none
    else some (.name (String.ofList (Percent.encodeControls text)))

/-- Controls and characters that have a meaning elsewhere in an address. -/
def isForbidden (c : Char) : Bool := c < ' ' || c = '\x7f' || c = '%' || isReserved c

/-- Escapes are undone and characters folded before a name is checked. -/
def ofWeb? : List Char → Option Host
  | '[' :: rest => ofBrackets? rest
  | text => do
    let folded ← Folding.fold? (← Percent.decode? text)
    if folded.any isForbidden then none
    let name ← Label.asciiName? folded
    if name.isEmpty then none
    else if Ipv4.isMeantBy name then (Ipv4.ofName? name).map .ipv4
    else some (.name (String.ofList name))

end Host
end Tenancy
