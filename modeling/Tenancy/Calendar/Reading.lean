import Tenancy.Calendar.Instant
import Tenancy.Text.Basic

/-! Reading points in time. A text is a plain date, the year first or last, with an optional time of
day in universal time, or a full date and time with a fraction of the second and a zone. -/
namespace Tenancy

/-- A date and a time of day as they are written. -/
structure CivilTime where
  year : Int
  month : Nat
  day : Nat
  hour : Nat
  minute : Nat
  second : Nat
  nano : Nat
deriving DecidableEq

namespace CivilTime

def date (t : CivilTime) : Date := ⟨t.year, t.month, t.day⟩

def IsValid (t : CivilTime) : Prop :=
  t.date.IsValid ∧ t.hour < 24 ∧ t.minute < 60 ∧ t.second < 60 ∧ t.nano < 1000000000

instance (t : CivilTime) : Decidable t.IsValid := by unfold IsValid; infer_instance

/-- The instant shown by a clock that is ahead of universal time by some seconds. -/
def instant? (t : CivilTime) (ahead : Int) : Option Instant :=
  if t.IsValid then
    Instant.of? (t.date.dayNumber * 86400 + t.hour * 3600 + t.minute * 60 + t.second - ahead) t.nano
  else none

end CivilTime

namespace Instant

def digitRun (text : List Char) : List Char × List Char :=
  (text.takeWhile isDecimalDigit, text.dropWhile isDecimalDigit)

def isShort (digits : List Char) : Bool := digits.length = 1 || digits.length = 2

/-- A year of two digits lies between 1950 and 2049. -/
def fullYear (twoDigits : Nat) : Nat :=
  if twoDigits < 50 then 2000 + twoDigits else 1900 + twoDigits

/-- Year, month and day of three runs of digits; a dash allows the year at either end and a slash
only at the last. -/
def arranged? (separator : Char) (a b c : List Char) : Option Date :=
  if separator = '-' ∧ a.length = 4 ∧ isShort b ∧ isShort c then do
    return ⟨← naturalOf? a, ← naturalOf? b, ← naturalOf? c⟩
  else if isShort a ∧ isShort b ∧ (separator = '-' ∨ separator = '/') ∧ c.length = 4 then do
    return ⟨← naturalOf? c, ← naturalOf? a, ← naturalOf? b⟩
  else if isShort a ∧ isShort b ∧ separator = '/' ∧ c.length = 2 then do
    return ⟨fullYear (← naturalOf? c), ← naturalOf? a, ← naturalOf? b⟩
  else none

/-- Hour, minute, second and nanosecond of the rest of a text. -/
structure ClockTime where
  hour : Nat
  minute : Nat
  second : Nat
  nano : Nat

/-- Tenths, or hundredths. -/
def fractionNanos? (digits : List Char) : Option Nat :=
  if digits.length = 1 then (naturalOf? digits).map (· * 100000000)
  else if digits.length = 2 then (naturalOf? digits).map (· * 10000000)
  else none

/-- Seconds are two digits of any script, but only ASCII ones count. -/
def secondsOf (digits : List Char) : Nat := (naturalOf? digits).getD 0

/-- The time of day after a blank; nothing at all stands for midnight. -/
def clock? : List Char → Option ClockTime
  | [] => some ⟨0, 0, 0, 0⟩
  | ' ' :: text =>
    match digitRun text with
    | (hour, ':' :: text) =>
      match digitRun text with
      | (minute, rest) =>
        if isShort hour ∧ minute.length = 2 then
          match rest with
          | [] => do return ⟨← naturalOf? hour, ← naturalOf? minute, 0, 0⟩
          | ':' :: text =>
            match digitRun text with
            | (second, rest) =>
              if second.length = 2 then
                match rest with
                | [] => do return ⟨← naturalOf? hour, ← naturalOf? minute, secondsOf second, 0⟩
                | '.' :: text =>
                  match digitRun text with
                  | (fraction, []) => do
                    return ⟨← naturalOf? hour, ← naturalOf? minute, secondsOf second,
                      ← fractionNanos? fraction⟩
                  | _ => none
                | _ => none
              else none
          | _ => none
        else none
    | _ => none
  | _ => none

/-- A date, and perhaps a time of day, in universal time. -/
def ofPlain? (text : List Char) : Option Instant :=
  match digitRun text with
  | (a, separator :: text) =>
    match digitRun text with
    | (b, second :: text) =>
      match digitRun text with
      | (c, rest) =>
        if second = separator then do
          let date ← arranged? separator a b c
          let clock ← clock? rest
          CivilTime.instant? ⟨date.year, date.month, date.day, clock.hour, clock.minute,
            clock.second, clock.nano⟩ 0
        else none
    | _ => none
  | _ => none

/-- How far a zone is ahead of universal time, in seconds; less than a day. -/
def zone? : List Char → Option Int
  | ['Z'] => some 0
  | [sign, h, h', ':', m, m'] => do
    let hour ← naturalOf? [h, h']
    let minute ← naturalOf? [m, m']
    let ahead : Int := hour * 3600 + minute * 60
    if 23 < hour ∨ 59 < minute then none
    else if sign = '+' then some ahead
    else if sign = '-' then some (-ahead)
    else none
  | _ => none

/-- The first nine digits of a fraction of the second. -/
def nanosOf? (digits : List Char) : Option Nat :=
  (naturalOf? digits).bind fun _ =>
    naturalOf? ((digits ++ List.replicate 9 '0').take 9)

/-- A full date and time with a fraction of the second and a zone. -/
def ofZoned? : List Char → Option Instant
  | y :: y' :: y'' :: y''' :: '-' :: m :: m' :: '-' :: d :: d' :: 'T' :: h :: h' :: ':' :: n :: n'
      :: ':' :: s :: s' :: '.' :: rest => do
    let time : CivilTime := ⟨← naturalOf? [y, y', y'', y'''], ← naturalOf? [m, m'],
      ← naturalOf? [d, d'], ← naturalOf? [h, h'], ← naturalOf? [n, n'], ← naturalOf? [s, s'],
      ← nanosOf? (rest.takeWhile isAsciiDigit)⟩
    time.instant? (← zone? (rest.dropWhile isAsciiDigit))
  | _ => none

def parse? (text : String) : Option Instant :=
  match ofZoned? text.toList with
  | some t => some t
  | none => ofPlain? text.toList

end Instant
end Tenancy
