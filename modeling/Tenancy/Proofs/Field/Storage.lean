import Tenancy.Field.Coerce
import Tenancy.Proofs.Calendar.Texts
import Tenancy.Proofs.Checked

/-! Coerced values in storage. A row holds the JSON form of a value, and the field that coerced the value
coerces this form when it is read. All but the values of number fields come back, except that instants
come back as their texts show them, in whole milliseconds, and only those whose texts are read. -/
namespace Tenancy

namespace Value

/-- The value that the stored form shows: of an instant the whole milliseconds. -/
def shown : Value → Value
  | .timestamp t => .timestamp t.settled.wholeMillis
  | value => value

/-- Whether the stored form of the value is read. -/
def IsReadable : Value → Prop
  | .timestamp t => t.IsReadable
  | _ => True

/-- Whether the value is the one that its stored form stands for. -/
def IsWritten : Value → Prop
  | .timestamp t => t.IsWritten
  | _ => True

theorem isWritten_iff {value : Value} : value.IsWritten ↔ value.IsReadable ∧ value.shown = value := by
  cases value with
  | timestamp t => exact Instant.isWritten_iff.trans (and_congr_right' (Value.timestamp.injEq _ _ ▸ Iff.rfl))
  | _ => exact ⟨fun _ => ⟨trivial, rfl⟩, fun _ => trivial⟩

/-- An outcome of reading the stored form of a value. -/
structure ReadsBack (stored : Value) (outcome : Checked Value) : Prop where
  readable : stored.IsReadable → outcome = .ok stored.shown
  unreadable : ¬ stored.IsReadable → ∃ cause, outcome = refuse .format cause

variable {stored : Value} {outcome : Checked Value}

theorem readsBack_of_eq (readable : stored.IsReadable) (same : outcome = .ok stored.shown) :
    stored.ReadsBack outcome :=
  ⟨fun _ => same, fun unreadable => absurd readable unreadable⟩

theorem ReadsBack.eq_ok_iff (reads : stored.ReadsBack outcome) : outcome = .ok stored ↔ stored.IsWritten := by
  rw [isWritten_iff]
  by_cases readable : stored.IsReadable
  · rw [reads.readable readable, Except.ok.injEq]
    exact ⟨fun same => ⟨readable, same⟩, fun same => same.2⟩
  · obtain ⟨cause, refused⟩ := reads.unreadable readable
    rw [refused]
    exact ⟨nofun, fun same => absurd same.1 readable⟩

end Value

namespace Instant

theorem settled_midnight (t : Instant) : t.midnight.settled = t.midnight := settled_of_early rfl

theorem wholeMillis_midnight (t : Instant) : t.midnight.wholeMillis = t.midnight := wholeMillis_eq_self rfl

theorem midnight_midnight (t : Instant) : t.midnight.midnight = t.midnight := by
  have same : t.second / 86400 * 86400 / 86400 * 86400 = t.second / 86400 * 86400 := by omega
  simp only [midnight, same]

end Instant

namespace Coerce

variable {field : String}

theorem toInstant_text (t : Instant) :
    toInstant field (.string (t.text 3)) =
      if t.IsReadable then .ok t.settled.wholeMillis else refuse .format (.unreadableDate (t.text 3) field) := by
  rw [toInstant, Instant.parse?_text]
  by_cases readable : t.IsReadable
  · rw [if_pos readable, if_pos readable]
  · rw [if_neg readable, if_neg readable]

end Coerce

namespace FieldType

variable {type : FieldType} {field : String} {value stored : Value}

theorem ofJson_ofInt (i : Int64) : Value.ofJson (.ofInt i.toInt) = .integer i := by
  have low := Int64.le_toInt i
  have high := Int64.toInt_lt i
  rw [Json.ofInt, Value.ofJson, Value.ofNumber, if_pos ⟨low, high⟩, Int64.ofInt_toInt]

theorem isNull_of_coerce (coerced : type.coerce field value = .ok stored) (exact : ∀ places, type ≠ .number places) :
    (Value.ofJson stored.toJson).isNull = false := by
  cases type <;> obtain ⟨_, _, rfl⟩ := map_eq_ok_iff.mp coerced
  case number => exact absurd rfl (exact _)
  case integer =>
    rw [Value.toJson, ofJson_ofInt]
    rfl
  all_goals rfl

theorem readsBack_of_coerce (coerced : type.coerce field value = .ok stored) (exact : ∀ places, type ≠ .number places) :
    stored.ReadsBack (type.coerce field (.ofJson stored.toJson)) := by
  have id {id : RecordId} : (Coerce.toId field (.ofJson (Value.toJson (.id id)))).map Value.id = .ok (.id id) := by
    simp only [Value.toJson, Value.ofJson, Coerce.toId, RecordId.ofString?_text]
    rfl
  cases type with
  | id =>
    obtain ⟨_, _, rfl⟩ := map_eq_ok_iff.mp coerced
    exact Value.readsBack_of_eq trivial id
  | reference target =>
    obtain ⟨_, _, rfl⟩ := map_eq_ok_iff.mp coerced
    exact Value.readsBack_of_eq trivial id
  | string =>
    obtain ⟨_, _, rfl⟩ := map_eq_ok_iff.mp coerced
    exact Value.readsBack_of_eq trivial rfl
  | boolean =>
    obtain ⟨_, _, rfl⟩ := map_eq_ok_iff.mp coerced
    exact Value.readsBack_of_eq trivial rfl
  | integer =>
    obtain ⟨i, _, rfl⟩ := map_eq_ok_iff.mp coerced
    refine Value.readsBack_of_eq trivial ?_
    rw [Value.toJson, ofJson_ofInt]
    rfl
  | number places => exact absurd rfl (exact places)
  | datetime =>
    obtain ⟨t, _, rfl⟩ := map_eq_ok_iff.mp coerced
    have read : FieldType.datetime.coerce field (.ofJson (Value.toJson (.timestamp t))) =
        (Coerce.toInstant field (.string (t.text 3))).map .timestamp := rfl
    rw [read, Coerce.toInstant_text]
    constructor
    · intro readable
      rw [if_pos (show t.IsReadable from readable)]
      rfl
    · intro unreadable
      rw [if_neg (show ¬ t.IsReadable from unreadable)]
      exact ⟨_, rfl⟩
  | date =>
    obtain ⟨t, _, rfl⟩ := map_eq_ok_iff.mp coerced
    have read : FieldType.date.coerce field (.ofJson (Value.toJson (.timestamp t.midnight))) =
        (Coerce.toInstant field (.string (t.midnight.text 3))).map fun t => .timestamp t.midnight := rfl
    rw [read, Coerce.toInstant_text]
    constructor
    · intro readable
      rw [if_pos (show t.midnight.IsReadable from readable), Except.map, Value.shown, Instant.settled_midnight,
        Instant.wholeMillis_midnight, Instant.midnight_midnight]
    · intro unreadable
      rw [if_neg (show ¬ t.midnight.IsReadable from unreadable)]
      exact ⟨_, rfl⟩

end FieldType
end Tenancy
