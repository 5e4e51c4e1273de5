import Tenancy.Text.Basic
import Tenancy.Text.Direction
import Tenancy.Url.Folding
import Tenancy.Url.Punycode

/-! Labels of host names. A label with characters outside ASCII is written in letters and digits,
with a mark before them that says so. -/
namespace Tenancy

structure Label where
  /-- The label in ASCII. -/
  written : List Char
  /-- What the label stands for. -/
  text : List Char

namespace Label

/-- The most characters that are written in letters and digits. -/
def maxTextLength : Nat := 1000

/-- The most letters and digits that are read as a text. -/
def maxWrittenLength : Nat := 2000

/-- Whether text outside ASCII can be a label: nothing in it belongs to a character before it. -/
def isSound (text : List Char) : Bool := !text.head?.any isMark && Joining.allFit text

/-- Reads a folded label. What is written in letters and digits must need it and be folded too. -/
def ofText? : List Char → Option Label
  | 'x' :: 'n' :: '-' :: '-' :: rest => do
    if maxWrittenLength < rest.length then none
    let text ← Punycode.decode? rest
    if text.all Punycode.isAscii || !Folding.isFolded text || !isSound text then none
    return { written := 'x' :: 'n' :: '-' :: '-' :: rest, text }
  | text =>
    if text.all Punycode.isAscii then some { written := text, text }
    else if maxTextLength < text.length || !isSound text then none
    else some { written := 'x' :: 'n' :: '-' :: '-' :: Punycode.encode text, text }

/-- The ASCII form of a folded name. -/
def asciiName? (name : List Char) : Option (List Char) := do
  let labels ← (splitAll (· = '.') name).mapM ofText?
  if labels.any (Direction.runsFromRight ·.text) && !labels.all (Direction.isKept ·.text) then none
  return List.intercalate ['.'] (labels.map (·.written))

end Label
end Tenancy
