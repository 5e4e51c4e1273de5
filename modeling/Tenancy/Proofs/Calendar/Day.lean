import Tenancy.Proofs.Calendar.Civil

/-! The order of instants and the starts of their days. Where no nanoseconds count on beyond a second, an instant
is told by the nanoseconds from the start of 1970 on. -/
namespace Tenancy.Instant

variable {t u m : Instant} {millis : Int}

/-- Nanoseconds from the start of 1970 on. A leap second counts like the second after it. -/
def nanos (t : Instant) : Int := t.second * 1000000000 + t.nano

/-- A leap second comes between the seconds around it. -/
instance : LE Instant := ⟨fun t u => t.second < u.second ∨ t.second = u.second ∧ t.nano ≤ u.nano⟩

instance (t u : Instant) : Decidable (t ≤ u) :=
  inferInstanceAs (Decidable (t.second < u.second ∨ t.second = u.second ∧ t.nano ≤ u.nano))

theorem le_iff : t ≤ u ↔ t.second < u.second ∨ t.second = u.second ∧ t.nano ≤ u.nano := Iff.rfl

theorem eq_of_second_eq (second : t.second = u.second) (nano : t.nano = u.nano) : t = u := by
  cases t
  cases u
  simp only [mk.injEq]
  exact ⟨second, nano⟩

/-- The instant of a whole number of milliseconds before or after the start of 1970. -/
def IsMillis (t : Instant) (millis : Int) : Prop := t.isLeap = false ∧ t.nanos = millis * 1000000

theorem ofMillis?_eq_some_iff : ofMillis? millis = some t ↔ t.IsMillis millis := by
  have small : (millis % 1000).toNat * 1000000 < 1000000000 := by omega
  rw [ofMillis?, of?_eq_some_iff small, IsMillis, isLeap_eq_false_iff, nanos]
  omega

/-- The instant of midnight that begins the 24 hours of another. -/
structure StartsDayOf (m t : Instant) : Prop where
  second : 86400 ∣ m.second
  nano : m.nano = 0
  le : m.nanos ≤ t.nanos
  lt : t.nanos < m.nanos + 86400 * 1000000000

/-- Days are cut at their starts, before 1970 too, and no other midnight begins the day. -/
theorem startsDayOf_iff (early : t.isLeap = false) : m.StartsDayOf t ↔ m = t.midnight := by
  have bound := isLeap_eq_false_iff.mp early
  constructor
  · rintro ⟨second, nano, le, lt⟩
    rw [nanos, nanos] at le lt
    refine eq_of_second_eq ?_ nano
    change m.second = t.second / 86400 * 86400
    omega
  · rintro rfl
    have le : t.second / 86400 * 86400 * 1000000000 ≤ t.nanos := by
      rw [nanos]
      omega
    have lt : t.nanos < t.second / 86400 * 86400 * 1000000000 + 86400 * 1000000000 := by
      rw [nanos]
      omega
    have nanos : t.midnight.nanos = t.second / 86400 * 86400 * 1000000000 := Int.add_zero _
    exact ⟨Int.dvd_mul_left _ _, rfl, nanos ▸ le, nanos ▸ lt⟩

theorem midnight_le_midnight (le : t ≤ u) : t.midnight ≤ u.midnight := by
  have second : t.second / 86400 * 86400 ≤ u.second / 86400 * 86400 := by
    rw [le_iff] at le
    omega
  rcases lt_or_eq_of_le second with earlier | same
  · exact .inl earlier
  · exact .inr ⟨same, Nat.le_refl _⟩

end Tenancy.Instant
