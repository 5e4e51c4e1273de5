import Tenancy.Calendar.Reading
import Tenancy.Proofs.Calendar.Date

/-! The date and the time of day of an instant. In universal time they belong to that instant alone, and a date
of a year of four digits with a time of day always belongs to one. -/
namespace Tenancy

namespace Instant

/-- The date and the time of day in universal time. Inside a leap second the nanoseconds count on. -/
def civil (t : Instant) : CivilTime where
  year := t.date.year
  month := t.date.month
  day := t.date.day
  hour := t.secondOfDay / 3600
  minute := t.secondOfDay / 60 % 60
  second := t.secondOfDay % 60
  nano := t.nano

theorem secondOfDay_lt (t : Instant) : t.secondOfDay < 86400 := by
  rw [secondOfDay]
  omega

theorem isValid_date (t : Instant) : t.date.IsValid := Date.isValid_ofDayNumber _

theorem isLeap_eq_false_iff {t : Instant} : t.isLeap = false ↔ t.nano < 1000000000 := by
  rw [isLeap, decide_eq_false_iff_not, Nat.not_le]

theorem isValid_civil {t : Instant} (early : t.isLeap = false) : t.civil.IsValid := by
  have bound := t.secondOfDay_lt
  have nano := isLeap_eq_false_iff.mp early
  refine ⟨t.isValid_date, ?_, ?_, ?_, nano⟩
  · change t.secondOfDay / 3600 < 24
    omega
  · change t.secondOfDay / 60 % 60 < 60
    omega
  · change t.secondOfDay % 60 < 60
    omega

theorem of?_eq_some_iff {second : Int} {nano : Nat} {t : Instant} (small : nano < 1000000000) :
    of? second nano = some t ↔ t.second = second ∧ t.nano = nano := by
  obtain ⟨second', nano', early, late, bound⟩ := t
  rw [of?]
  split
  · simp [eq_comm]
  · rename_i unfit
    simp only [reduceCtorEq, false_iff]
    rintro ⟨rfl, rfl⟩
    exact unfit ⟨early, late, bound, .inl small⟩

end Instant

/-- The days of years of up to four digits are near those of the year zero. -/
theorem Date.dayNumber_bounds {d : Date} (valid : d.IsValid) (low : 0 ≤ d.year) (high : d.year ≤ 9999) :
    -720000 ≤ d.dayNumber ∧ d.dayNumber ≤ 3000000 := by
  obtain ⟨first, last, _⟩ := isDayOf valid
  have year : -1 ≤ d.marchYear ∧ d.marchYear ≤ 9999 := by
    rw [marchYear]
    omega
  rw [dayNumber_eq, daysBefore, marchOffset]
  omega

namespace CivilTime

/-- Seconds from the start of 1970 on, in universal time. -/
def epochSecond (time : CivilTime) : Int :=
  time.date.dayNumber * 86400 + time.hour * 3600 + time.minute * 60 + time.second

variable {time : CivilTime} {t : Instant}

theorem instant?_eq_some_iff {ahead : Int} :
    time.instant? ahead = some t ↔ time.IsValid ∧ t.second = time.epochSecond - ahead ∧ t.nano = time.nano := by
  rw [instant?]
  split
  · rename_i valid
    rw [Instant.of?_eq_some_iff valid.2.2.2.2]
    exact (and_iff_right valid).symm
  · rename_i invalid
    simp [invalid]

theorem eq_of_date_eq {time' : CivilTime} (date : time.date = time'.date) (hour : time.hour = time'.hour)
    (minute : time.minute = time'.minute) (second : time.second = time'.second) (nano : time.nano = time'.nano) :
    time = time' := by
  cases time
  cases time'
  obtain ⟨year, month, day⟩ := Date.mk.inj date
  simp only [mk.injEq]
  exact ⟨year, month, day, hour, minute, second, nano⟩

theorem civil_eq_iff (valid : time.IsValid) : t.civil = time ↔ t.second = time.epochSecond ∧ t.nano = time.nano := by
  have secondOfDay : (t.secondOfDay : Int) = t.second % 86400 := Int.toNat_of_nonneg (by omega)
  constructor
  · rintro rfl
    have days : t.civil.date.dayNumber = t.second / 86400 := Date.dayNumber_ofDayNumber _
    refine ⟨?_, rfl⟩
    rw [epochSecond, days]
    change t.second = t.second / 86400 * 86400 + ((t.secondOfDay / 3600 : Nat) : Int) * 3600
      + ((t.secondOfDay / 60 % 60 : Nat) : Int) * 60 + ((t.secondOfDay % 60 : Nat) : Int)
    omega
  · rintro ⟨second, nano⟩
    obtain ⟨validDate, hours, minutes, seconds, _⟩ := valid
    rw [epochSecond] at second
    have days : t.second / 86400 = time.date.dayNumber := by omega
    have date : t.date = time.date := by
      rw [Instant.date, days]
      exact Date.ofDayNumber_dayNumber validDate
    refine eq_of_date_eq date ?_ ?_ ?_ nano
    · change t.secondOfDay / 3600 = time.hour
      omega
    · change t.secondOfDay / 60 % 60 = time.minute
      omega
    · change t.secondOfDay % 60 = time.second
      omega

/-- What is shown in universal time tells the instant. -/
theorem instant?_universal_iff : time.instant? 0 = some t ↔ time.IsValid ∧ t.civil = time := by
  rw [instant?_eq_some_iff, Int.sub_zero]
  exact and_congr_right fun valid => (civil_eq_iff valid).symm

/-- All days of the years that four digits can write are near enough to 1970. -/
theorem exists_civil_eq (valid : time.IsValid) (low : 0 ≤ time.year) (high : time.year ≤ 9999) :
    ∃ t : Instant, t.civil = time := by
  simp only [civil_eq_iff valid]
  obtain ⟨validDate, hours, minutes, seconds, nanos⟩ := valid
  obtain ⟨first, last⟩ := Date.dayNumber_bounds validDate (low : 0 ≤ time.date.year) (high : time.date.year ≤ 9999)
  have range : -8334601228800 ≤ time.epochSecond ∧ time.epochSecond ≤ 8210266876799 := by
    rw [epochSecond]
    omega
  exact ⟨⟨time.epochSecond, time.nano, range.1, range.2, by omega⟩, rfl, rfl⟩

end CivilTime
end Tenancy
