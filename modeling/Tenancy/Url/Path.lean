import Tenancy.Url.Basic

/-! Paths of addresses. A segment of one dot stays where it is, and one of two dots steps back over
the segment before it, unless that names a drive; both may be written with escapes. -/
namespace Tenancy.Url

def isSelf (segment : List Char) : Bool :=
  [".", "%2e"].contains (String.ofList (segment.map Char.toLower))

def isParent (segment : List Char) : Bool :=
  ["..", ".%2e", "%2e.", "%2e%2e"].contains (String.ofList (segment.map Char.toLower))

/-- A letter and a colon, or a bar in its stead. -/
def isDrive : List Char → Bool
  | [letter, mark] => letter.isAlpha && (mark = ':' || mark = '|')
  | _ => false

/-- The segments, the last of which comes first, after a step back. -/
def stepBack : List (List Char) → List (List Char)
  | [] => []
  | segment :: rest => if isDrive segment then segment :: rest else rest

/-- The segments after a step forward. The path of a file that starts with a drive has a colon. -/
def stepInto (family : Family) (segment : List Char) (kept : List (List Char)) :
    List (List Char) :=
  if family = .file && kept.isEmpty && isDrive segment then [segment.take 1 ++ [':']]
  else segment :: kept

/-- Walks along segments after those kept. Dots at the end leave a slash there. -/
def walk (family : Family) (kept : List (List Char)) : List (List Char) → List (List Char)
  | [] => kept.reverse
  | segment :: rest =>
    let close := if rest.isEmpty then [[]] else []
    if isParent segment then walk family (close ++ stepBack kept) rest
    else if isSelf segment then walk family (close ++ kept) rest
    else walk family (stepInto family segment kept) rest

/-- The path that a text describes. Only general addresses may be without one. -/
def pathOf (family : Family) (text : List Char) : List Char :=
  match text with
  | [] => if family = .general then [] else ['/']
  | c :: rest =>
    let segments := splitAll family.isSlash (if family.isSlash c then rest else c :: rest)
    (walk family [] segments).flatMap ('/' :: ·)

end Tenancy.Url
