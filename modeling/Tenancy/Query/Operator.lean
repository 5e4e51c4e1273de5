import Tenancy.Error

/-! The operators of conditions. -/
namespace Tenancy

inductive Operator where
  | eq
  | ne
  | gt
  | gte
  | lt
  | lte
  | isNull
  | isNotNull
  | and
  | or
  | like
  | notLike
  | ilike
deriving DecidableEq

namespace Operator

def all : List Operator :=
  [.eq, .ne, .gt, .gte, .lt, .lte, .isNull, .isNotNull, .and, .or, .like, .notLike, .ilike]

def symbol : Operator → String
  | .eq => "="
  | .ne => "<>"
  | .gt => ">"
  | .gte => ">="
  | .lt => "<"
  | .lte => "<="
  | .isNull => "IS NULL"
  | .isNotNull => "IS NOT NULL"
  | .and => "AND"
  | .or => "OR"
  | .like => "LIKE"
  | .notLike => "NOT LIKE"
  | .ilike => "ILIKE"

def isComparison : Operator → Bool
  | .eq | .ne | .gt | .gte | .lt | .lte => true
  | _ => false

/-- Operators that have no right side. -/
def isNullTest : Operator → Bool
  | .isNull | .isNotNull => true
  | _ => false

/-- Operators that join two conditions. -/
def isConnective : Operator → Bool
  | .and | .or => true
  | _ => false

def upperText (text : String) : String := String.ofList (text.toList.map Char.toUpper)

/-- Reads a symbol in letters of either case; inequality has a second symbol. -/
def ofText? (text : String) : Option Operator :=
  if text = "!=" then some .ne
  else all.find? fun operator => operator.symbol = upperText text

def ofText (text : String) : Checked Operator :=
  match ofText? text with
  | some operator => .ok operator
  | none => refuse .invalidQuery (.unknownOperator text)

def decode : Wire.Decoder Operator
  | .string text =>
    match ofText? text with
    | some operator => .ok operator
    | none => .error (.unknownOperator text)
  | _ => .error .shape

theorem ofText?_symbol (operator : Operator) : ofText? operator.symbol = some operator := by
  cases operator <;> decide

end Operator
end Tenancy
