import Tenancy.Json.Basic

/-! Decoding of values that come as JSON. A structure is an object, whose unknown members are
ignored, or an array of its members in their declared order. The members are decoded in the order in
which they stand, and the first that cannot be decoded decides the fault. -/
namespace Tenancy.Wire

open scoped Powers

inductive Fault where
  /-- The value has not the shape that is asked for. -/
  | shape
  | emptyFieldList
  | combinedStar
  | unknownOperator (text : String)
  | invalidId (text : String)
deriving DecidableEq

/-- What a message adds on a fault; faults of shape add nothing. -/
def Fault.detail : Fault → Option String
  | .shape => none
  | .emptyFieldList => some "Field list must not be empty"
  | .combinedStar => some "'*' cannot be combined with other fields"
  | .unknownOperator text => some ("Invalid query: Unknown operator '" ++ text ++ "'")
  | .invalidId text => some ("Format error: Invalid id: '" ++ text ++ "'")

abbrev Decoder (α : Type) := Json → Except Fault α

def text : Decoder String
  | .string s => .ok s
  | _ => .error .shape

def bool : Decoder Bool
  | .bool b => .ok b
  | _ => .error .shape

/-- An integer below a bound; a fraction is none, even if it is whole. -/
def naturalBelow (bound : Nat) : Decoder Nat
  | .number (.integer i) => if 0 ≤ i ∧ i.toNat < bound then .ok i.toNat else .error .shape
  | _ => .error .shape

def byte : Decoder UInt8 := fun json => (naturalBelow (2 ^ (8 : Nat)) json).map UInt8.ofNat

def word : Decoder UInt64 := fun json => (naturalBelow (2 ^ (64 : Nat)) json).map UInt64.ofNat

def nullable {α : Type} (decode : Decoder α) : Decoder (Option α)
  | .null => .ok none
  | json => (decode json).map some

def list {α : Type} (decode : Decoder α) : Decoder (List α)
  | .array items => items.mapM decode
  | _ => .error .shape

def record : Decoder Record
  | .object members => .ok ⟨members⟩
  | _ => .error .shape

/-- A member of a structure: its name, and how its value enters a partly decoded structure. -/
structure Member (σ : Type) where
  name : String
  read : Json → σ → Except Fault σ

def findMember? {σ : Type} (name : String) : List (Member σ) → Option (Member σ)
  | [] => none
  | member :: rest => if member.name = name then some member else findMember? name rest

/-- Reads members by name; no name that is known may come twice. -/
def byName {σ : Type} (known : List (Member σ)) :
    List String → List (String × Json) → σ → Except Fault σ
  | _, [], state => .ok state
  | seen, (name, value) :: rest, state =>
    match findMember? name known with
    | none => byName known seen rest state
    | some member =>
      if name ∈ seen then .error .shape
      else do byName known (name :: seen) rest (← member.read value state)

/-- Reads members by position; the last may be missing. -/
def byPosition {σ : Type} : List (Member σ) → List Json → σ → Except Fault σ
  | _, [], state => .ok state
  | [], _ :: _, _ => .error .shape
  | member :: known, value :: rest, state => do byPosition known rest (← member.read value state)

def members {σ : Type} (known : List (Member σ)) (start : σ) : Decoder σ
  | .object entries => byName known [] entries start
  | .array items => byPosition known items start
  | _ => .error .shape

def required {α : Type} : Option α → Except Fault α
  | some value => .ok value
  | none => .error .shape

/-- Splits a tagged structure into its tag and the rest of its members. -/
def tagged (tag : String) : Json → Except Fault (String × Json)
  | .object entries =>
    match entries.filter (fun entry => entry.1 = tag) with
    | [(_, .string name)] => .ok (name, .object (entries.filter fun entry => entry.1 ≠ tag))
    | _ => .error .shape
  | .array (.string name :: items) => .ok (name, .array items)
  | _ => .error .shape

end Tenancy.Wire
