import Tenancy.Url.Path

/-! Reading addresses. Blanks around an address and breaks inside it do not count. -/
namespace Tenancy.Url

open scoped Powers

def trimmed (text : List Char) : List Char :=
  ((text.dropWhile (· ≤ ' ')).reverse.dropWhile (· ≤ ' ')).reverse

def isBreak (c : Char) : Bool := c = '\t' || c = '\n' || c = '\r'

def isSchemeChar (c : Char) : Bool := c.isAlphanum || c = '+' || c = '-' || c = '.'

/-- The scheme in lower case, and the text after its colon. -/
def scheme? (text : List Char) : Option (String × List Char) :=
  match text.takeWhile isSchemeChar, text.dropWhile isSchemeChar with
  | first :: later, ':' :: rest =>
    if first.isAlpha then some (String.ofList ((first :: later).map Char.toLower), rest) else none
  | _, _ => none

def endsPath (c : Char) : Bool := c = '?' || c = '#'

def endsAuthority (family : Family) (c : Char) : Bool := family.isSlash c || endsPath c

def queryOf : List Char → List Char
  | '?' :: rest => rest.takeWhile (· ≠ '#')
  | _ => []

/-- Adds the path and the query of a text. -/
def locate (family : Family) (url : Url) (text : List Char) : Url :=
  { url with
    path := pathOf family (text.takeWhile (!endsPath ·))
    query := queryOf (text.dropWhile (!endsPath ·)) }

/-- The host, and the text after the first colon outside brackets. -/
def splitPort (inBrackets : Bool) : List Char → List Char × Option (List Char)
  | [] => ([], none)
  | c :: rest =>
    if c = ':' && !inBrackets then ([], some rest)
    else
      let (host, port) := splitPort (c = '[' || (inBrackets && c ≠ ']')) rest
      (c :: host, port)

/-- Reads digits up to the end or a backslash. A port that the scheme implies is not kept. -/
def port? (family : Family) (text : List Char) : Option (Option UInt16 × List Char) :=
  let rest := text.dropWhile isAsciiDigit
  if rest.head?.any (· ≠ '\\') then none
  else
    match naturalOf? (text.takeWhile isAsciiDigit) with
    | none => some (none, rest)
    | some n =>
      if n < 2 ^ (16 : Nat) then
        let port := UInt16.ofNat n
        some (if family = .web port then none else some port, rest)
      else none

/-- Only general addresses may be without a host. -/
def host? (family : Family) (text : List Char) : Option (Option Host) :=
  match family, text with
  | .general, [] => some none
  | .general, text => (Host.ofGeneral? text).map some
  | _, text => (Host.ofWeb? text).map some

/-- Reads user, password, host, port and what follows them. Without a host there is no user. -/
def authority? (family : Family) (scheme : String) (text : List Char) : Option Url := do
  let area := text.takeWhile (!endsAuthority family ·)
  let after := text.dropWhile (!endsAuthority family ·)
  let user := splitLast? '@' area
  if user = some ([], []) ∧ after ≠ [] then none
  let (user, location) := user.getD ([], area)
  let (username, password) := (splitFirst? ':' user).getD (user, [])
  let (hostText, portText) := splitPort false location
  let host ← host? family hostText
  if host = none ∧ (portText ≠ none ∨ username ≠ [] ∨ password ≠ []) then none
  let (port, rest) ← (portText.map (port? family)).getD (some (none, []))
  return locate family { scheme, username, password, host, port } (rest ++ after)

def ofWeb? (family : Family) (scheme : String) (text : List Char) : Option Url :=
  authority? family scheme (text.dropWhile family.isSlash)

/-- Reads the host of a file and its path. The local host goes without saying. -/
def fileOnHost? (scheme : String) (name path : List Char) : Option Url := do
  let host ← if name.isEmpty then some none else (Host.ofWeb? name).map some
  return locate .file { scheme, host := host.filter (· ≠ .name "localhost") } path

/-- A file on a drive. -/
def startsWithDrive : List Char → Bool
  | '/' :: rest => isDrive (rest.takeWhile (· ≠ '/'))
  | _ => false

/-- A drive belongs to no host, and what stands in the place of a host may be one. -/
def ofFile? (scheme : String) (text : List Char) : Option Url := do
  let url ← match text with
    | first :: second :: rest =>
      let name := rest.takeWhile (!endsAuthority .file ·)
      if !Family.file.isSlash first || !Family.file.isSlash second then
        some (locate .file { scheme } text)
      else if isDrive name then some (locate .file { scheme } rest)
      else fileOnHost? scheme name (rest.dropWhile (!endsAuthority .file ·))
    | text => some (locate .file { scheme } text)
  return if startsWithDrive url.path then { url with host := none } else url

/-- An address that starts with no slash has a path without segments. -/
def ofGeneral? (scheme : String) : List Char → Option Url
  | '/' :: '/' :: rest => authority? .general scheme rest
  | '/' :: rest => some (locate .general { scheme } ('/' :: rest))
  | text => some { locate .general { scheme } text with path := text.takeWhile (!endsPath ·) }

def ofText? (text : String) : Option Url := do
  let (scheme, rest) ← scheme? ((trimmed text.toList).filter (!isBreak ·))
  match Family.ofScheme scheme with
  | .general => ofGeneral? scheme rest
  | .file => ofFile? scheme rest
  | .web defaultPort => ofWeb? (.web defaultPort) scheme rest

end Tenancy.Url
