import Tenancy.Calendar.Date
import Tenancy.Numeral.Decimal

/-! Points in time, in seconds and nanoseconds from the start of 1970 in universal time. An instant
inside a leap second counts on from the nanoseconds of the second before it, which ends a minute. No
other second is counted on like that when an instant is made of a time, but its nanoseconds may be
replaced by so many afterwards. -/
namespace Tenancy

open scoped Powers

structure Instant where
  second : Int
  nano : Nat
  earliest_le : -8334601228800 ≤ second
  le_latest : second ≤ 8210266876799
  nano_lt : nano < 2000000000
deriving DecidableEq

namespace Instant

def of? (second : Int) (nano : Nat) : Option Instant :=
  if h : -8334601228800 ≤ second ∧ second ≤ 8210266876799 ∧ nano < 2000000000 ∧
      (nano < 1000000000 ∨ second % 60 = 59) then
    some ⟨second, nano, h.1, h.2.1, h.2.2.1⟩
  else none

def ofMillis? (millis : Int) : Option Instant :=
  of? (millis / 1000) ((millis % 1000).toNat * 1000000)

/-- Whether the nanoseconds count on beyond the second. -/
def isLeap (t : Instant) : Bool := 1000000000 ≤ t.nano

def date (t : Instant) : Date := .ofDayNumber (t.second / 86400)

def secondOfDay (t : Instant) : Nat := (t.second % 86400).toNat

/-- The start of the day of an instant. -/
def midnight (t : Instant) : Instant where
  second := t.second / 86400 * 86400
  nano := 0
  earliest_le := by have := t.earliest_le; omega
  le_latest := by have := t.le_latest; omega
  nano_lt := by decide

def ofDate? (date : Date) : Option Instant := of? (date.dayNumber * 86400) 0

/-- Four digits, or a sign and at least four outside the years 0 to 9999. -/
def yearText (year : Int) : String :=
  if 0 ≤ year ∧ year ≤ 9999 then paddedText 4 year.toNat
  else (if year < 0 then "-" else "+") ++ paddedText 4 year.natAbs

/-- The text of an instant with a number of places of the second, cut and not rounded. Nanoseconds beyond
the second are shown as those of the next one. -/
def text (places : Nat) (t : Instant) : String :=
  let date := t.date
  let seconds := t.secondOfDay % 60 + if t.isLeap then 1 else 0
  yearText date.year ++ "-" ++ paddedText 2 date.month ++ "-" ++ paddedText 2 date.day
    ++ "T" ++ paddedText 2 (t.secondOfDay / 3600) ++ ":" ++ paddedText 2 (t.secondOfDay / 60 % 60)
    ++ ":" ++ paddedText 2 seconds
    ++ "." ++ paddedText places (t.nano % 1000000000 / 10 ^ (9 - places)) ++ "Z"

end Instant
end Tenancy
