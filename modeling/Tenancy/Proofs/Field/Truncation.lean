import Tenancy.Field.Coerce
import Tenancy.Proofs.Calendar.Day
import Tenancy.Proofs.Calendar.Zoned
import Tenancy.Proofs.Checked

/-! Dates and points in time. Fields of both types take the same values, each for one instant, and a field of dates
keeps the midnight before it. -/
namespace Tenancy

namespace Value

/-- The instant that a value stands for in a field of dates or points in time. A zone tells how far its clocks are
ahead of the instant. -/
inductive Denotes : Value → Instant → Prop
  | timestamp (t : Instant) : Denotes (.timestamp t) t
  | integer {i : Int64} {t : Instant} : t.IsMillis i.toInt → Denotes (.integer i) t
  | number {x : Finite64} {millis : Int} {t : Instant} :
      x.signedUnits = millis * Finite64.one → t.IsMillis millis → Denotes (.number (.finite x)) t
  | plain {s : String} {t : Instant} :
      Instant.PlainText Instant.ReadSeconds s.toList t.civil → Denotes (.string s) t
  | zoned {s : String} {time : CivilTime} {ahead : Int} {t : Instant} :
      Instant.ZonedText s.toList time ahead → time.IsValid →
      t.second = time.epochSecond - ahead → t.nano = time.nano → Denotes (.string s) t

end Value

namespace Finite64

variable {x : Finite64} {millis : Int}

theorem isIntegral_iff : x.isIntegral = true ↔ ∃ i : Int, x.signedUnits = i * one := by
  have units : x.isIntegral = true ↔ (one : Int) ∣ x.units := by
    rw [isIntegral, beq_iff_eq, Int.natCast_dvd_natCast, Nat.dvd_iff_mod_eq_zero]
  have sign : (one : Int) ∣ x.signedUnits ↔ (one : Int) ∣ x.units := by
    rw [signedUnits]
    split
    · exact Int.dvd_neg
    · rfl
  rw [units, ← sign, dvd_iff_exists_eq_mul_left]

theorem floor_eq (integral : x.signedUnits = millis * one) : x.floor = millis := by
  have positive : (one : Int) ≠ 0 := by
    rw [one]
    positivity
  rw [floor, integral, Int.mul_ediv_cancel _ positive]

end Finite64

namespace Coerce

variable {field : String} {millis : Int} {t : Instant} {value : Value}

theorem ofMillis_eq_ok_iff : ofMillis field millis = .ok t ↔ t.IsMillis millis := by
  rw [ofMillis, ← Instant.ofMillis?_eq_some_iff]
  cases Instant.ofMillis? millis with
  | none => simp [refuse]
  | some u => simp

/-- What 64 bits do not hold is far from every instant. -/
theorem isMillis_clamp_iff : t.IsMillis (clamp millis) ↔ t.IsMillis millis := by
  have early := t.earliest_le
  have late := t.le_latest
  have small := t.nano_lt
  have same : t.nanos = clamp millis * 1000000 ↔ t.nanos = millis * 1000000 := by
    rw [Instant.nanos, clamp]
    omega
  exact and_congr_right fun _ => same

theorem toInstant_string_eq_ok_iff {s : String} : toInstant field (.string s) = .ok t ↔ Instant.parse? s = some t := by
  rw [toInstant]
  cases Instant.parse? s with
  | none => simp [refuse]
  | some u => simp

theorem toInstant_eq_ok_iff : toInstant field value = .ok t ↔ value.Denotes t := by
  constructor
  · intro taken
    cases value with
    | timestamp u =>
      obtain rfl := Except.ok.inj taken
      exact .timestamp u
    | integer i => exact .integer (ofMillis_eq_ok_iff.mp taken)
    | number x =>
      cases x with
      | finite x =>
        rw [toInstant] at taken
        split at taken
        · rename_i integral
          obtain ⟨millis, same⟩ := Finite64.isIntegral_iff.mp integral
          rw [ofMillis_eq_ok_iff, isMillis_clamp_iff, Finite64.floor_eq same] at taken
          exact .number same taken
        · exact nomatch taken
      | nan => exact nomatch taken
      | infinite negative => exact nomatch taken
    | string s =>
      rcases Instant.parse?_eq_some_iff.mp (toInstant_string_eq_ok_iff.mp taken) with plain | ⟨time, ahead, zoned, shown⟩
      · exact .plain plain
      · obtain ⟨valid, second, nano⟩ := CivilTime.instant?_eq_some_iff.mp shown
        exact .zoned zoned valid second nano
    | null | bool | id | structured => exact nomatch taken
  · intro denotes
    cases denotes with
    | timestamp => rfl
    | integer millis => exact ofMillis_eq_ok_iff.mpr millis
    | number same millis =>
      rw [toInstant, if_pos (Finite64.isIntegral_iff.mpr ⟨_, same⟩), ofMillis_eq_ok_iff, isMillis_clamp_iff,
        Finite64.floor_eq same]
      exact millis
    | plain written => exact toInstant_string_eq_ok_iff.mpr (Instant.parse?_eq_some_iff.mpr (.inl written))
    | zoned written valid second nano =>
      have shown := CivilTime.instant?_eq_some_iff.mpr ⟨valid, second, nano⟩
      exact toInstant_string_eq_ok_iff.mpr (Instant.parse?_eq_some_iff.mpr (.inr ⟨_, _, written, shown⟩))

end Coerce

namespace FieldType

variable {field field' : String} {value value' stored : Value} {t t' m m' : Instant}

theorem datetime_eq_ok_iff : datetime.coerce field value = .ok stored ↔ ∃ t, value.Denotes t ∧ stored = .timestamp t := by
  simp only [coerce, map_eq_ok_iff, Coerce.toInstant_eq_ok_iff]

theorem date_eq_ok_iff :
    date.coerce field value = .ok stored ↔ ∃ t, value.Denotes t ∧ stored = .timestamp t.midnight := by
  simp only [coerce, map_eq_ok_iff, Coerce.toInstant_eq_ok_iff]

/-- What fields of both types make of a value. -/
structure StoredAs (field : String) (value : Value) (t m : Instant) : Prop where
  datetime : datetime.coerce field value = .ok (.timestamp t)
  date : date.coerce field value = .ok (.timestamp m)

theorem storedAs_midnight (taken : datetime.coerce field value = .ok (.timestamp t)) :
    StoredAs field value t t.midnight := by
  obtain ⟨t, denotes, ⟨⟩⟩ := datetime_eq_ok_iff.mp taken
  exact ⟨taken, date_eq_ok_iff.mpr ⟨_, denotes, rfl⟩⟩

theorem StoredAs.eq_midnight (stored : StoredAs field value t m) : m = t.midnight := by
  have date := (storedAs_midnight stored.datetime).date
  rw [stored.date] at date
  exact Value.timestamp.inj (Except.ok.inj date)

/-- Fields of dates take what fields of points in time take. They keep the midnight that begins the day of the instant
in universal time, also before 1970, and so they keep the order of the instants. -/
theorem date_truncates_datetime (field field' : String) (value value' : Value) :
    ((∃ stored, date.coerce field value = .ok stored) ↔ ∃ stored, datetime.coerce field value = .ok stored) ∧
      (∀ stored, datetime.coerce field value = .ok stored ↔ ∃ t, value.Denotes t ∧ stored = .timestamp t) ∧
      (∀ t, datetime.coerce field value = .ok (.timestamp t) → ∃ m, StoredAs field value t m ∧
        (t.isLeap = false → ∀ m', m'.StartsDayOf t ↔ m' = m)) ∧
      ∀ t m t' m', StoredAs field value t m → StoredAs field' value' t' m' → t ≤ t' → m ≤ m' := by
  refine ⟨?_, fun stored => datetime_eq_ok_iff, fun t taken => ?_, fun t m t' m' first second le => ?_⟩
  · constructor
    · rintro ⟨_, taken⟩
      obtain ⟨t, denotes, -⟩ := date_eq_ok_iff.mp taken
      exact ⟨_, datetime_eq_ok_iff.mpr ⟨t, denotes, rfl⟩⟩
    · rintro ⟨_, taken⟩
      obtain ⟨t, denotes, -⟩ := datetime_eq_ok_iff.mp taken
      exact ⟨_, date_eq_ok_iff.mpr ⟨t, denotes, rfl⟩⟩
  · exact ⟨t.midnight, storedAs_midnight taken, fun early m' => Instant.startsDayOf_iff early⟩
  · rw [first.eq_midnight, second.eq_midnight]
    exact Instant.midnight_le_midnight le

/-- Half an hour after the start of 1970 in a zone one hour ahead is the last day of 1969. -/
theorem date_truncates_datetime_of_zone :
    ∃ t m : Instant, t.second = -1800 ∧ t.isLeap = false ∧ m.second = -86400 ∧
      StoredAs "born" (.string "1970-01-01T00:30:00.5+01:00") t m ∧ (∀ m', m'.StartsDayOf t ↔ m' = m) ∧
      ∀ t' m', StoredAs "born" (.integer 0) t' m' → t ≤ t' → m ≤ m' := by
  obtain ⟨-, -, starts, order⟩ :=
    date_truncates_datetime "born" "born" (.string "1970-01-01T00:30:00.5+01:00") (.integer 0)
  let t : Instant := ⟨-1800, 500000000, by decide, by decide, by decide⟩
  have read : Instant.parse? "1970-01-01T00:30:00.5+01:00" = some t := by decide +kernel
  have taken : datetime.coerce "born" (.string "1970-01-01T00:30:00.5+01:00") = .ok (.timestamp t) := by
    rw [coerce, Coerce.toInstant, read]
    rfl
  obtain ⟨m, stored, unique⟩ := starts t taken
  refine ⟨t, m, rfl, by decide, ?_, stored, unique (by decide), fun t' m' => order t m t' m' stored⟩
  rw [stored.eq_midnight]
  rfl

end FieldType
end Tenancy
