import Mathlib.Tactic.IntervalCases
import Tenancy.Calendar.Date

/-! Days and their numbers. The day of a number is a day of the calendar and has that number, and no other day
of the calendar has it. Both ways go through years that begin in March: they follow each other without a gap,
and eras of four hundred of them are alike, so that the year of a number is a matter of the days of one era. -/
namespace Tenancy.Date

/-! Years from March on. -/

/-- Days before the first of March of a year, from that of the year zero on. -/
def daysBefore (year : Int) : Int := 365 * year + year / 4 - year / 100 + year / 400

/-- A place in a year that begins in March; only leap years have the last day of the longest year. -/
structure IsDayOf (year dayOfYear : Int) : Prop where
  low : 0 ≤ dayOfYear
  high : dayOfYear ≤ 365
  leap : dayOfYear = 365 → isLeapYear (year + 1) = true

/-- The day at a place in a year that begins in March. -/
def ofMarchYear (year dayOfYear : Int) : Date :=
  let month := (5 * dayOfYear + 2) / 153
  let day := dayOfYear - (153 * month + 2) / 5 + 1
  if month < 10 then ⟨year, (month + 3).toNat, day.toNat⟩
  else ⟨year + 1, (month - 9).toNat, day.toNat⟩

def marchYear (d : Date) : Int := if d.month ≤ 2 then d.year - 1 else d.year

def marchMonth (d : Date) : Int := if d.month ≤ 2 then d.month + 9 else d.month - 3

def dayOfMarchYear (d : Date) : Int := (153 * d.marchMonth + 2) / 5 + d.day - 1

variable {d : Date} {year dayOfYear : Int}

theorem dayNumber_eq (d : Date) : d.dayNumber = daysBefore d.marchYear + d.dayOfMarchYear - marchOffset := by
  rw [dayOfMarchYear, daysBefore, dayNumber, marchYear, marchMonth]
  omega

theorem isLeapYear_iff (year : Int) :
    isLeapYear year = true ↔ year % 4 = 0 ∧ (year % 100 ≠ 0 ∨ year % 400 = 0) := by
  simp [isLeapYear]

theorem daysInMonth_le (year : Int) (month : Nat) : daysInMonth year month ≤ 31 := by
  unfold daysInMonth
  split
  · split <;> decide
  all_goals decide

/-- A month ends before the next one begins. -/
theorem day_le (valid : d.IsValid) : (153 * d.marchMonth + 2) / 5 + d.day ≤ (153 * (d.marchMonth + 1) + 2) / 5 := by
  obtain ⟨year, month, day⟩ := d
  obtain ⟨monthLow, monthHigh, dayLow, dayHigh⟩ := valid
  dsimp only at monthLow monthHigh dayLow dayHigh
  rw [marchMonth]
  dsimp only
  by_cases february : month = 2
  · have days : daysInMonth year 2 ≤ 29 := by
      rw [daysInMonth]
      split <;> decide
    subst february
    omega
  · interval_cases month <;> simp [daysInMonth] at february dayHigh ⊢ <;> omega

theorem isDayOf (valid : d.IsValid) : IsDayOf d.marchYear d.dayOfMarchYear := by
  have length := day_le valid
  obtain ⟨year, month, day⟩ := d
  obtain ⟨monthLow, monthHigh, dayLow, dayHigh⟩ := valid
  dsimp only at monthLow monthHigh dayLow dayHigh
  simp only [dayOfMarchYear, marchMonth, marchYear] at length ⊢
  by_cases february : month = 2
  · subst february
    have days : day ≤ if isLeapYear year then 29 else 28 := dayHigh
    rw [if_pos (by decide)]
    refine ⟨by omega, ?_, fun longest => ?_⟩
    · split at days <;> omega
    · rw [Int.sub_add_cancel]
      by_contra common
      rw [if_neg common] at days
      omega
  · split <;> constructor <;> omega

/-- The month of a place in the year lies between the days on which it and the next month begin. -/
theorem month_eq_iff {month : Int} :
    (5 * dayOfYear + 2) / 153 = month ↔
      (153 * month + 2) / 5 ≤ dayOfYear ∧ dayOfYear < (153 * (month + 1) + 2) / 5 := by
  omega

/-- Days of the calendar are told by their places in years from March on. -/
theorem eq_ofMarchYear (valid : d.IsValid) : d = ofMarchYear d.marchYear d.dayOfMarchYear := by
  have length := day_le valid
  obtain ⟨monthLow, monthHigh, dayLow, _⟩ := valid
  have month : (5 * d.dayOfMarchYear + 2) / 153 = d.marchMonth := by
    rw [month_eq_iff, dayOfMarchYear]
    omega
  have day : d.dayOfMarchYear - (153 * d.marchMonth + 2) / 5 + 1 = d.day := by
    rw [dayOfMarchYear]
    omega
  rw [ofMarchYear]
  simp only [month, day, Int.toNat_natCast]
  clear month day length
  obtain ⟨year, month, day⟩ := d
  dsimp only at monthLow monthHigh
  by_cases early : month ≤ 2
  · simp only [marchMonth, marchYear, if_pos early]
    rw [if_neg (by omega), Date.mk.injEq]
    omega
  · simp only [marchMonth, marchYear, if_neg early]
    rw [if_pos (by omega), Date.mk.injEq]
    omega

/-- And such places are days of the calendar. -/
theorem isValid_ofMarchYear (day : IsDayOf year dayOfYear) : (ofMarchYear year dayOfYear).IsValid := by
  obtain ⟨low, high, leap⟩ := day
  rw [ofMarchYear]
  generalize monthEq : (5 * dayOfYear + 2) / 153 = month
  obtain ⟨first, last⟩ := month_eq_iff.mp monthEq
  by_cases february : month = 11
  · subst february
    have days : (dayOfYear - 336).toNat ≤ if isLeapYear (year + 1) then 29 else 28 := by
      by_cases longest : dayOfYear = 365
      · rw [if_pos (leap longest)]
        omega
      · split <;> omega
    rw [if_neg (by decide)]
    refine ⟨(by decide : 1 ≤ 2), (by decide : 2 ≤ 12), ?_, ?_⟩
    · change 1 ≤ (dayOfYear - 337 + 1).toNat
      omega
    · change (dayOfYear - 337 + 1).toNat ≤ if isLeapYear (year + 1) then 29 else 28
      rwa [show dayOfYear - 337 + 1 = dayOfYear - 336 by omega]
  · have earlier : month ≤ 10 := by omega
    have later : 0 ≤ month := by omega
    interval_cases month <;> simp [IsValid, daysInMonth] <;> omega

theorem dayNumber_ofMarchYear (day : IsDayOf year dayOfYear) :
    (ofMarchYear year dayOfYear).dayNumber = daysBefore year + dayOfYear - marchOffset := by
  obtain ⟨low, high, _⟩ := day
  rw [ofMarchYear]
  split
  · rw [dayNumber, daysBefore]
    dsimp only
    rw [if_neg (by omega), if_neg (by omega)]
    omega
  · rw [dayNumber, daysBefore]
    dsimp only
    rw [if_pos (by omega), if_pos (by omega), Int.add_sub_cancel]
    omega

theorem daysBefore_mono {year' : Int} (le : year ≤ year') : daysBefore year ≤ daysBefore year' := by
  have fours : year / 4 ≤ year' / 4 := Int.ediv_le_ediv (by decide) le
  have eras : year / 400 ≤ year' / 400 := Int.ediv_le_ediv (by decide) le
  -- Each century takes one of the twenty-five days that every fourth year adds.
  have hundreds : year / 100 = year / 4 / 25 := by omega
  have hundreds' : year' / 100 = year' / 4 / 25 := by omega
  rw [daysBefore, daysBefore, hundreds, hundreds']
  omega

theorem IsDayOf.lt (day : IsDayOf year dayOfYear) : daysBefore year + dayOfYear < daysBefore (year + 1) := by
  obtain ⟨low, high, leap⟩ := day
  rw [isLeapYear_iff] at leap
  rw [daysBefore, daysBefore]
  omega

theorem IsDayOf.year_le {year' dayOfYear' : Int} (day : IsDayOf year dayOfYear) (day' : IsDayOf year' dayOfYear')
    (same : daysBefore year + dayOfYear = daysBefore year' + dayOfYear') : year' ≤ year := by
  by_contra later
  have next := daysBefore_mono (show year + 1 ≤ year' by omega)
  have := day.lt
  have := day'.low
  omega

theorem dayNumber_injective {e : Date} (valid : d.IsValid) (valid' : e.IsValid) (same : d.dayNumber = e.dayNumber) :
    d = e := by
  rw [dayNumber_eq, dayNumber_eq] at same
  have days : daysBefore d.marchYear + d.dayOfMarchYear = daysBefore e.marchYear + e.dayOfMarchYear := by omega
  have year : d.marchYear = e.marchYear :=
    Int.le_antisymm ((isDayOf valid').year_le (isDayOf valid) days.symm) ((isDayOf valid).year_le (isDayOf valid') days)
  have dayOfYear : d.dayOfMarchYear = e.dayOfMarchYear := by
    rw [year] at days
    omega
  rw [eq_ofMarchYear valid, eq_ofMarchYear valid', year, dayOfYear]

/-! The year of a number. -/

/-- The years since the start of an era of four hundred years, each of which begins in March. -/
def yearOfEra (day : Int) : Int := (day - day / 1460 + day / 36524 - day / 146096) / 365

/-! A day by its century, the cycle of four years in it and the year in that. The last year of a cycle has
one day more than the others, but for the last cycle of a century. -/

structure InCycle (century cycle year dayOfYear : Int) : Prop where
  centuries : 0 ≤ century ∧ century ≤ 3
  cycles : 0 ≤ cycle ∧ cycle ≤ 24
  years : 0 ≤ year ∧ year ≤ 3
  days : 0 ≤ dayOfYear ∧ dayOfYear ≤ 365
  leap : dayOfYear = 365 → year = 3 ∧ cycle ≤ 23

/-- The last day of an era is the only one that is not in a cycle. -/
theorem exists_inCycle {day : Int} (low : 0 ≤ day) (high : day < 146096) :
    ∃ century cycle year dayOfYear : Int, InCycle century cycle year dayOfYear ∧
      day = 36524 * century + 1461 * cycle + 365 * year + dayOfYear := by
  by_cases last : day % 36524 % 1461 = 1460
  · refine ⟨day / 36524, day % 36524 / 1461, 3, 365, ?_, ?_⟩
    · constructor <;> omega
    · omega
  · refine ⟨day / 36524, day % 36524 / 1461, day % 36524 % 1461 / 365, day % 36524 % 1461 % 365, ?_, ?_⟩
    · constructor <;> omega
    · omega

theorem yearOfEra_eq {century cycle year dayOfYear : Int} (inCycle : InCycle century cycle year dayOfYear) :
    yearOfEra (36524 * century + 1461 * cycle + 365 * year + dayOfYear) = 100 * century + 4 * cycle + year := by
  obtain ⟨centuries, cycles, years, days, leap⟩ := inCycle
  have last : (36524 * century + 1461 * cycle + 365 * year + dayOfYear) / 146096 = 0 := by omega
  have whole : (36524 * century + 1461 * cycle + 365 * year + dayOfYear) / 36524 = century := by omega
  rw [yearOfEra, last, whole]
  omega

/-- A day of an era is in its year of the era. -/
theorem inEra {day : Int} (low : 0 ≤ day) (high : day < 146097) :
    ∃ dayOfYear, dayOfYear = day - (365 * yearOfEra day + yearOfEra day / 4 - yearOfEra day / 100) ∧
      IsDayOf (yearOfEra day) dayOfYear ∧ day = daysBefore (yearOfEra day) + dayOfYear := by
  refine ⟨_, rfl, ?_⟩
  by_cases last : day = 146096
  · subst last
    exact ⟨⟨by decide, by decide, by decide⟩, by decide⟩
  · obtain ⟨century, cycle, year, dayOfYear, inCycle, rfl⟩ := exists_inCycle low (by omega : day < 146096)
    rw [yearOfEra_eq inCycle]
    obtain ⟨centuries, cycles, years, days, leap⟩ := inCycle
    have fours : (100 * century + 4 * cycle + year) / 4 = 25 * century + cycle := by omega
    have hundreds : (100 * century + 4 * cycle + year) / 100 = century := by omega
    rw [daysBefore, fours, hundreds]
    refine ⟨⟨by omega, by omega, ?_⟩, by omega⟩
    rw [isLeapYear_iff]
    omega

theorem isLeapYear_add_eras (year era : Int) : isLeapYear (year + era * 400) = isLeapYear year := by
  have fours : (year + era * 400) % 4 = year % 4 := by omega
  have hundreds : (year + era * 400) % 100 = year % 100 := by omega
  have eras : (year + era * 400) % 400 = year % 400 := by omega
  rw [isLeapYear, isLeapYear, fours, hundreds, eras]

theorem daysBefore_add_eras (year era : Int) : daysBefore (year + era * 400) = daysBefore year + 146097 * era := by
  have fours : (year + era * 400) / 4 = year / 4 + 100 * era := by omega
  have hundreds : (year + era * 400) / 100 = year / 100 + 4 * era := by omega
  have eras : (year + era * 400) / 400 = year / 400 + era := by omega
  rw [daysBefore, daysBefore, fours, hundreds, eras]
  omega

/-- The day of a number by its place in a year from March on. -/
theorem ofDayNumber_eq (n : Int) :
    ∃ year dayOfYear : Int, IsDayOf year dayOfYear ∧ n + marchOffset = daysBefore year + dayOfYear ∧
      ofDayNumber n = ofMarchYear year dayOfYear := by
  have eras : n + marchOffset = 146097 * ((n + marchOffset) / 146097) + (n + marchOffset) % 146097 := by omega
  obtain ⟨dayOfYear, dayEq, ⟨low, high, leap⟩, split⟩ := inEra (by omega : 0 ≤ (n + marchOffset) % 146097) (by omega)
  refine ⟨yearOfEra ((n + marchOffset) % 146097) + (n + marchOffset) / 146097 * 400, dayOfYear,
    ⟨low, high, fun longest => ?_⟩, ?_, dayEq ▸ rfl⟩
  · rw [Int.add_right_comm, isLeapYear_add_eras]
    exact leap longest
  · rw [daysBefore_add_eras]
    omega

theorem dayNumber_ofDayNumber (n : Int) : (ofDayNumber n).dayNumber = n := by
  obtain ⟨year, dayOfYear, day, split, same⟩ := ofDayNumber_eq n
  rw [same, dayNumber_ofMarchYear day]
  omega

theorem isValid_ofDayNumber (n : Int) : (ofDayNumber n).IsValid := by
  obtain ⟨year, dayOfYear, day, _, same⟩ := ofDayNumber_eq n
  rw [same]
  exact isValid_ofMarchYear day

theorem ofDayNumber_dayNumber (valid : d.IsValid) : ofDayNumber d.dayNumber = d :=
  dayNumber_injective (isValid_ofDayNumber _) valid (dayNumber_ofDayNumber _)

end Tenancy.Date
