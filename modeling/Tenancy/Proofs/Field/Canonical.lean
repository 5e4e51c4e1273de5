import Tenancy.Field.Basic
import Tenancy.Proofs.Field.Storage

/-! The values that fields hold. Coercion brings a value to the one form that its type has, and leaves values of this
form as they are, except that a field of numbers with decimal places rounds again. -/
namespace Tenancy

namespace Instant

variable {t : Instant}

/-- Whole days from the start of 1970 in universal time. -/
structure IsMidnight (t : Instant) : Prop where
  second : 86400 ∣ t.second
  nano : t.nano = 0

theorem isMidnight_midnight (t : Instant) : t.midnight.IsMidnight := ⟨Int.dvd_mul_left _ _, rfl⟩

theorem midnight_of_isMidnight (whole : t.IsMidnight) : t.midnight = t := by
  obtain ⟨second, nano⟩ := whole
  cases t
  simp only [midnight, Instant.mk.injEq]
  exact ⟨Int.ediv_mul_cancel second, nano.symm⟩

end Instant

/-- The form that the values of a type have. -/
inductive FieldType.IsCanonical : FieldType → Value → Prop
  | id (id : RecordId) : IsCanonical .id (.id id)
  | reference (target : ReferenceTarget) (id : RecordId) : IsCanonical (.reference target) (.id id)
  | string (s : String) : IsCanonical .string (.string s)
  | boolean (b : Bool) : IsCanonical .boolean (.bool b)
  | integer (i : Int64) : IsCanonical .integer (.integer i)
  | number (places : Option UInt8) (x : Finite64) : IsCanonical (.number places) (.number (.finite x))
  | datetime (t : Instant) : IsCanonical .datetime (.timestamp t)
  | date {t : Instant} : t.IsMidnight → IsCanonical .date (.timestamp t)

theorem map_eq_error_iff {ε : Type} {input : Except ε α} {f : α → β} {error : ε} :
    input.map f = .error error ↔ input = .error error := by
  cases input <;> simp [Except.map]

namespace Coerce

theorem kind_of_floorOf {field : String} {x : Finite64} {error : DataError}
    (refused : floorOf field (.finite x) = .error error) : error.kind = .format := by
  rw [floorOf] at refused
  split at refused <;> cases refused
  rfl

end Coerce

namespace FieldType

variable {type : FieldType} {field : String} {value stored : Value}

theorem isCanonical_of_coerce (exact : ∀ n, type ≠ .number (some n)) (coerced : type.coerce field value = .ok stored) :
    type.IsCanonical stored := by
  cases type with
  | number places =>
    obtain ⟨x, _, rfl⟩ := map_eq_ok_iff.mp coerced
    cases places with
    | none => exact .number none x
    | some n => exact absurd rfl (exact n)
  | date =>
    obtain ⟨t, _, rfl⟩ := map_eq_ok_iff.mp coerced
    exact .date t.isMidnight_midnight
  | id | string | boolean | integer | datetime | reference =>
    obtain ⟨_, _, rfl⟩ := map_eq_ok_iff.mp coerced
    constructor

theorem coerce_of_isCanonical (exact : ∀ n, type ≠ .number (some n)) (canonical : type.IsCanonical value)
    (field : String) : type.coerce field value = .ok value := by
  cases canonical with
  | number places x =>
    cases places with
    | none => rfl
    | some n => exact absurd rfl (exact n)
  | date whole =>
    rw [coerce, Coerce.toInstant, Except.map, Instant.midnight_of_isMidnight whole]
  | id | string | boolean | integer | datetime | reference => rfl

theorem kind_of_coerce_string {s : String} {error : DataError}
    (refused : type.coerce field (.string s) = .error error) : error.kind = .format := by
  cases type with
  | id | reference =>
    rw [coerce, map_eq_error_iff, Coerce.toId] at refused
    split at refused <;> cases refused
    rfl
  | string => cases refused
  | boolean =>
    rw [coerce, map_eq_error_iff, Coerce.toBool] at refused
    split at refused
    · cases refused
    · split at refused <;> cases refused
      rfl
  | integer =>
    rw [coerce, map_eq_error_iff, Coerce.toInteger] at refused
    split at refused
    · exact Coerce.kind_of_floorOf refused
    · cases refused
      rfl
  | number places =>
    rw [coerce, map_eq_error_iff, Coerce.toNumber] at refused
    split at refused <;> cases refused
    rfl
  | date | datetime =>
    rw [coerce, map_eq_error_iff, Coerce.toInstant] at refused
    split at refused <;> cases refused
    rfl

theorem exists_refuse_structured (type : FieldType) (field : String) (json : Json) :
    ∃ cause, type.coerce field (.structured json) = refuse .typeMismatch cause := by
  cases type <;> exact ⟨_, rfl⟩

/-- Coerced values have the form of their type, and coercing them again leaves them as they are, unless they are
rounded. A text that is refused does not fit its format, an array or an object has the wrong type, and null is not
coerced. -/
theorem coerce_canonical (field : String) :
    (∀ (type : FieldType) (value stored : Value), (∀ n, type ≠ .number (some n)) →
        type.coerce field value = .ok stored →
        type.IsCanonical stored ∧ ∀ field', type.coerce field' stored = .ok stored) ∧
      (∀ (type : FieldType) (s : String) (error : DataError), type.coerce field (.string s) = .error error →
        error.kind = .format) ∧
      (∀ (type : FieldType) (json : Json), ∃ cause, type.coerce field (.structured json) = refuse .typeMismatch cause) ∧
      ∀ f : Field, f.coerce .null = .ok none := by
  refine ⟨fun type value stored exact coerced => ?_, fun type s error => kind_of_coerce_string,
    fun type => type.exists_refuse_structured field, fun f => rfl⟩
  have canonical := isCanonical_of_coerce exact coerced
  exact ⟨canonical, coerce_of_isCanonical exact canonical⟩

/-- The day of an instant is a date, also of another field. -/
theorem coerce_canonical_of_day : ∃ t : Instant, t.second = 86400 ∧ IsCanonical .date (.timestamp t) ∧
    date.coerce "died" (.timestamp t) = .ok (.timestamp t) ∧
    ∃ error, boolean.coerce "born" (.string "yes") = .error error ∧ error.kind = .format := by
  obtain ⟨fixes, format, -⟩ := coerce_canonical "born"
  let noon : Instant := ⟨86400 + 43200, 0, by decide, by decide, by decide⟩
  obtain ⟨canonical, fixed⟩ := fixes .date (.timestamp noon) (.timestamp noon.midnight) nofun rfl
  exact ⟨noon.midnight, by decide, canonical, fixed "died", _, rfl, format boolean "yes" _ rfl⟩

end FieldType
end Tenancy
