import Tenancy.Proofs.Wire
import Tenancy.Query.Wire

/-! Conditions on the wire. A side that is written as a plain value is read as a condition where the
value has the form of one, and this is the only way in which a condition can change. -/
namespace Tenancy

namespace Operand

/-- No plain value in an operand has the form of a condition. -/
def IsWireNormal : Operand → Prop
  | .value json => ∀ c, Condition.decode json ≠ .ok c
  | .nested left _ right => left.IsWireNormal ∧ right.IsWireNormal

/-- The operand that is read where this one was written. -/
def reread : Operand → Operand
  | .value json => Condition.operandOf json (Condition.decode json)
  | .nested left operator right => .nested left.reread operator right.reread

end Operand

namespace Condition

theorem operator_decode_symbol (operator : Operator) : Operator.decode (.string operator.symbol) = .ok operator := by
  rw [Operator.decode, Operator.ofText?_symbol]

theorem decode_members (left right : Json) (operator : Operator) :
    decode (.object [("left", left), ("operator", .string operator.symbol), ("right", right)]) =
      .ok ⟨operandOf left (decode left), operator, operandOf right (decode right)⟩ := by
  simp [decode, decodeMembers, operator_decode_symbol, Draft.finish, Wire.required, ok_bind, pure_eq_ok]

theorem operandOf_decode_toJson (o : Operand) : operandOf o.toJson (decode o.toJson) = o.reread := by
  induction o with
  | value json => rfl
  | nested left operator right ihl ihr =>
    rw [Operand.toJson, decode_members, ihl, ihr]
    rfl

def reread (c : Condition) : Condition := ⟨c.left.reread, c.operator, c.right.reread⟩

theorem decode_toJson (c : Condition) : decode c.toJson = .ok c.reread := by
  rw [toJson, toOperand, Operand.toJson, decode_members, operandOf_decode_toJson, operandOf_decode_toJson]
  rfl

def IsWireNormal (c : Condition) : Prop := c.toOperand.IsWireNormal

/-- What is decoded is read again as it is. -/
theorem operandOf_isWireNormal {json : Json} (sound : ∀ c, decode json = .ok c → c.IsWireNormal) :
    (operandOf json (decode json)).IsWireNormal := by
  cases decoded : decode json with
  | ok c => exact sound c decoded
  | error fault =>
    intro c ok
    rw [decoded] at ok
    cases ok

structure Draft.IsWireNormal (draft : Draft) : Prop where
  left : ∀ o ∈ draft.left, o.IsWireNormal
  right : ∀ o ∈ draft.right, o.IsWireNormal

theorem null_isWireNormal : (Operand.value .null).IsWireNormal := by
  intro c
  rw [decode.eq_def]
  exact nofun

theorem Draft.IsWireNormal.finish {draft : Draft} (normal : draft.IsWireNormal) {c : Condition}
    (finished : draft.finish = .ok c) : c.IsWireNormal := by
  simp only [Draft.finish, bind_eq_ok_iff, Wire.required_eq_ok_iff, pure_eq_ok_iff] at finished
  obtain ⟨left, written, operator, _, rfl⟩ := finished
  refine ⟨normal.left left written, ?_⟩
  cases last : draft.right with
  | none => exact null_isWireNormal
  | some right => exact normal.right right last

mutual

theorem isWireNormal_of_decode (json : Json) (c : Condition) (ok : decode json = .ok c) : c.IsWireNormal := by
  match json with
  | .object members =>
    rw [decode] at ok
    split at ok
    · rename_i draft decoded
      exact (isWireNormal_of_decodeMembers members {} draft ⟨nofun, nofun⟩ decoded).finish ok
    · cases ok
  | .array items => exact isWireNormal_of_decodeItems items c ok
  | .null | .bool _ | .number _ | .string _ =>
    rw [decode.eq_def] at ok
    cases ok

theorem isWireNormal_of_decodeMembers (members : List (String × Json)) (start draft : Draft)
    (normal : start.IsWireNormal) (ok : decodeMembers members start = .ok draft) : draft.IsWireNormal := by
  match members with
  | [] =>
    rw [decodeMembers] at ok
    exact Except.ok.inj ok ▸ normal
  | (name, json) :: rest =>
    have side := operandOf_isWireNormal fun c => isWireNormal_of_decode json c
    have further (next : Draft) (kept : next.IsWireNormal) := isWireNormal_of_decodeMembers rest next draft kept
    rw [decodeMembers] at ok
    split at ok
    · split at ok
      · cases ok
      · refine further _ ?_ ok
        exact ⟨fun o written => Option.some.inj written ▸ side, normal.right⟩
    · split at ok
      · split at ok
        · refine further _ ?_ ok
          exact ⟨normal.left, normal.right⟩
        · cases ok
        · cases ok
      · split at ok
        · split at ok
          · cases ok
          · refine further _ ?_ ok
            exact ⟨normal.left, fun o written => Option.some.inj written ▸ side⟩
        · exact further _ normal ok

theorem isWireNormal_of_decodeItems (items : List Json) (c : Condition) (ok : decodeItems items = .ok c) :
    c.IsWireNormal := by
  match items with
  | left :: operator :: right :: rest =>
    have first := operandOf_isWireNormal fun c => isWireNormal_of_decode left c
    have last := operandOf_isWireNormal fun c => isWireNormal_of_decode right c
    rw [decodeItems] at ok
    split at ok
    · cases ok
    · split at ok
      · exact Except.ok.inj ok ▸ ⟨first, last⟩
      · cases ok
  | [left, operator] =>
    have first := operandOf_isWireNormal fun c => isWireNormal_of_decode left c
    rw [decodeItems] at ok
    split at ok
    · cases ok
    · exact Except.ok.inj ok ▸ ⟨first, null_isWireNormal⟩
  | [] | [_] =>
    rw [decodeItems.eq_def] at ok
    cases ok

end

end Condition
end Tenancy
