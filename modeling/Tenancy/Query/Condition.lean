import Tenancy.Field.Basic
import Tenancy.Query.Operator

/-! Conditions on records. Either side of a condition is a plain value, such as the name of a
column, or a condition of its own. -/
namespace Tenancy

inductive Operand where
  | value (json : Json)
  | nested (left : Operand) (operator : Operator) (right : Operand)

structure Condition where
  left : Operand
  operator : Operator
  right : Operand

namespace Condition

def toOperand (c : Condition) : Operand := .nested c.left c.operator c.right

def compare (column : String) (operator : Operator) (value : Value) : Condition :=
  ⟨.value (.string column), operator, .value value.toJson⟩

def unary (column : String) (operator : Operator) : Condition :=
  ⟨.value (.string column), operator, .value .null⟩

def and (a b : Condition) : Condition := ⟨a.toOperand, .and, b.toOperand⟩

def or (a b : Condition) : Condition := ⟨a.toOperand, .or, b.toOperand⟩

/-- The column on the left side, if there is one. -/
def leftColumn? (c : Condition) : Option String :=
  match c.left with
  | .value (.string column) => some column
  | _ => none

end Condition

def Operand.toJson : Operand → Json
  | .value json => json
  | .nested left operator right =>
    .object [("left", left.toJson), ("operator", .string operator.symbol), ("right", right.toJson)]

def Condition.toJson (c : Condition) : Json := c.toOperand.toJson

namespace Condition

/-- A value that decodes as a condition is that condition, and any other stands for itself. -/
def operandOf (json : Json) : Except Wire.Fault Condition → Operand
  | .ok c => c.toOperand
  | .error _ => .value json

structure Draft where
  left : Option Operand := none
  operator : Option Operator := none
  right : Option Operand := none

/-- Without a right side there is a null on it. -/
def Draft.finish (draft : Draft) : Except Wire.Fault Condition := do
  return ⟨← Wire.required draft.left, ← Wire.required draft.operator,
    draft.right.getD (.value .null)⟩

mutual

def decode : Json → Except Wire.Fault Condition
  | .object members =>
    match decodeMembers members {} with
    | .ok draft => draft.finish
    | .error fault => .error fault
  | .array items => decodeItems items
  | _ => .error .shape

def decodeMembers : List (String × Json) → Draft → Except Wire.Fault Draft
  | [], draft => .ok draft
  | (name, json) :: rest, draft =>
    if name = "left" then
      match draft.left with
      | some _ => .error .shape
      | none => decodeMembers rest { draft with left := some (operandOf json (decode json)) }
    else if name = "operator" then
      match draft.operator, Operator.decode json with
      | none, .ok operator => decodeMembers rest { draft with operator := some operator }
      | none, .error fault => .error fault
      | some _, _ => .error .shape
    else if name = "right" then
      match draft.right with
      | some _ => .error .shape
      | none => decodeMembers rest { draft with right := some (operandOf json (decode json)) }
    else decodeMembers rest draft

def decodeItems : List Json → Except Wire.Fault Condition
  | left :: operator :: right :: rest =>
    match Operator.decode operator with
    | .error fault => .error fault
    | .ok operator =>
      if rest.isEmpty then
        .ok ⟨operandOf left (decode left), operator, operandOf right (decode right)⟩
      else .error .shape
  | [left, operator] =>
    match Operator.decode operator with
    | .error fault => .error fault
    | .ok operator => .ok ⟨operandOf left (decode left), operator, .value .null⟩
  | _ => .error .shape

end

/-- Reads a condition that came as JSON. -/
def ofJson (json : Json) : Checked Condition := decoded (decode json)

end Condition

namespace Field

def test (f : Field) (operator : Operator) (value : Value) : Condition :=
  .compare f.columnName operator value

def equals (f : Field) (value : Value) : Condition := f.test .eq value

def notEquals (f : Field) (value : Value) : Condition := f.test .ne value

def greaterThan (f : Field) (value : Value) : Condition := f.test .gt value

def greaterOrEqualThan (f : Field) (value : Value) : Condition := f.test .gte value

def lessThan (f : Field) (value : Value) : Condition := f.test .lt value

def lessOrEqualThan (f : Field) (value : Value) : Condition := f.test .lte value

def isNull (f : Field) : Condition := .unary f.columnName .isNull

def isNotNull (f : Field) : Condition := .unary f.columnName .isNotNull

end Field
end Tenancy
