import Mathlib.Data.List.TakeWhile
import Tenancy.Proofs.Calendar.Civil
import Tenancy.Proofs.Numeral.Padded

/-! The grammar of plain dates. A date has its year at one end, and a time of day may follow it after a blank. The
grammar leaves open which digits stand for the seconds: the reader takes two digits of any script and counts only
ASCII ones. -/
namespace Tenancy

open scoped Powers

/-! Digits of any script. -/

theorem isDigit_or_of_isDecimalDigit {c : Char} (digit : isDecimalDigit c = true) :
    c.isDigit = true ∨ 128 ≤ c.toNat := by
  have zeros : ∀ start ∈ digitZeros, start = 48 ∨ 128 ≤ start := by decide
  obtain ⟨start, member, bounds⟩ := List.any_eq_true.mp digit
  rw [Bool.and_eq_true, decide_eq_true_eq, decide_eq_true_eq] at bounds
  rcases zeros start member with rfl | late
  · left
    rw [Char.isDigit, Bool.and_eq_true, decide_eq_true_eq, decide_eq_true_eq, ge_iff_le, UInt32.le_iff_toNat_le,
      UInt32.le_iff_toNat_le]
    exact ⟨bounds.1, Nat.le_of_lt_succ bounds.2⟩
  · exact .inr (late.trans bounds.1)

theorem IsDigits.isDecimalDigit {text : List Char} (digits : IsDigits text) : ∀ c ∈ text, isDecimalDigit c = true :=
  fun c member => isDecimalDigit_of_isDigit (digits.digit c member)

/-- Texts of ASCII characters alone. -/
def IsAscii (text : List Char) : Prop := ∀ c ∈ text, c.toNat < 128

@[simp] theorem isAscii_nil : IsAscii [] := List.forall_mem_nil _

@[simp] theorem isAscii_append {text text' : List Char} : IsAscii (text ++ text') ↔ IsAscii text ∧ IsAscii text' :=
  List.forall_mem_append

@[simp] theorem isAscii_cons {c : Char} {text : List Char} : IsAscii (c :: text) ↔ c.toNat < 128 ∧ IsAscii text :=
  List.forall_mem_cons

theorem takeWhile_run {p : Char → Bool} {run rest : List Char} (all : ∀ c ∈ run, p c = true)
    (stop : ∀ c ∈ rest.head?, p c = false) :
    (run ++ rest).takeWhile p = run ∧ (run ++ rest).dropWhile p = rest := by
  rw [List.takeWhile_append_of_pos all, List.dropWhile_append_of_pos all]
  cases rest with
  | nil => simp
  | cons c rest => simp [stop c (by simp)]

namespace Instant

variable {run rest : List Char}

theorem digitRun_append (all : ∀ c ∈ run, isDecimalDigit c = true) (stop : ∀ c ∈ rest.head?, isDecimalDigit c = false) :
    digitRun (run ++ rest) = (run, rest) := by
  obtain ⟨taken, dropped⟩ := takeWhile_run all stop
  rw [digitRun, taken, dropped]

theorem digitRun_cons {c : Char} (all : ∀ c ∈ run, isDecimalDigit c = true) (stop : isDecimalDigit c = false) :
    digitRun (run ++ c :: rest) = (run, c :: rest) :=
  digitRun_append all (by simpa using stop)

theorem digitRun_all (all : ∀ c ∈ run, isDecimalDigit c = true) : digitRun run = (run, []) := by
  have nothing : ∀ c ∈ ([] : List Char).head?, isDecimalDigit c = false := nofun
  simpa using digitRun_append all nothing

theorem eq_of_digitRun {text run rest : List Char} (split : digitRun text = (run, rest)) :
    text = run ++ rest ∧ ∀ c ∈ run, isDecimalDigit c = true := by
  obtain ⟨rfl, rfl⟩ := Prod.mk.inj split
  exact ⟨List.takeWhile_append_dropWhile.symm, fun c member => List.mem_takeWhile_imp member⟩

end Instant

/-- The digits of a natural, in one of some widths. -/
structure Numeral (widths : List Nat) (text : List Char) (n : Nat) : Prop where
  width : text.length ∈ widths
  digits : IsDigits text
  value : Nat.ofDigitChars 10 text 0 = n

namespace Numeral

variable {widths : List Nat} {text : List Char} {n : Nat}

theorem read (numeral : Numeral widths text n) : naturalOf? text = some n :=
  naturalOf?_eq_some_iff.mpr ⟨numeral.digits, numeral.value⟩

theorem of_read (width : text.length ∈ widths) (read : naturalOf? text = some n) : Numeral widths text n := by
  obtain ⟨digits, value⟩ := naturalOf?_eq_some_iff.mp read
  exact ⟨width, digits, value⟩

theorem isDecimalDigit (numeral : Numeral widths text n) : ∀ c ∈ text, isDecimalDigit c = true :=
  numeral.digits.isDecimalDigit

theorem isAscii (numeral : Numeral widths text n) : IsAscii text := by
  intro c member
  have bounds := toNat_of_isDigit (numeral.digits.digit c member)
  omega

theorem length_eq {width : Nat} (numeral : Numeral [width] text n) : text.length = width :=
  List.mem_singleton.mp numeral.width

theorem lt_pow {width : Nat} (numeral : Numeral [width] text n) : n < 10 ^ width := by
  have below := ofDigitChars_lt numeral.digits.digit 0
  rwa [numeral.value, numeral.length_eq, Nat.zero_add, Nat.mul_one] at below

end Numeral

namespace Instant

theorem isShort_iff {text : List Char} : isShort text = true ↔ text.length ∈ [1, 2] := by
  simp [isShort]

/-- A year, a month and a day. Two digits for the year stand for a year between 1950 and 2049. -/
inductive DateText : List Char → Date → Prop
  | yearFirst {y m d : List Char} {year month day : Nat} :
      Numeral [4] y year → Numeral [1, 2] m month → Numeral [1, 2] d day →
      DateText (y ++ '-' :: (m ++ '-' :: d)) ⟨year, month, day⟩
  | yearLast {m d y : List Char} {separator : Char} {month day year : Nat} :
      separator = '-' ∨ separator = '/' → Numeral [1, 2] m month → Numeral [1, 2] d day → Numeral [4] y year →
      DateText (m ++ separator :: (d ++ separator :: y)) ⟨year, month, day⟩
  | shortYear {m d y : List Char} {month day year : Nat} :
      Numeral [1, 2] m month → Numeral [1, 2] d day → Numeral [2] y year →
      DateText (m ++ '/' :: (d ++ '/' :: y)) ⟨fullYear year, month, day⟩

/-- Tenths or hundredths of a second, in nanoseconds. -/
inductive FractionText : List Char → Nat → Prop
  | tenths {f : List Char} {n : Nat} : Numeral [1] f n → FractionText f (n * 100000000)
  | hundredths {f : List Char} {n : Nat} : Numeral [2] f n → FractionText f (n * 10000000)

/-- Nothing, or a blank and hours with minutes, perhaps with seconds and a fraction. -/
inductive ClockText (Seconds : List Char → Nat → Prop) : List Char → ClockTime → Prop
  | midnight : ClockText Seconds [] ⟨0, 0, 0, 0⟩
  | minutes {h m : List Char} {hour minute : Nat} :
      Numeral [1, 2] h hour → Numeral [2] m minute →
      ClockText Seconds (' ' :: (h ++ ':' :: m)) ⟨hour, minute, 0, 0⟩
  | seconds {h m s : List Char} {hour minute second : Nat} :
      Numeral [1, 2] h hour → Numeral [2] m minute → Seconds s second →
      ClockText Seconds (' ' :: (h ++ ':' :: (m ++ ':' :: s))) ⟨hour, minute, second, 0⟩
  | fraction {h m s f : List Char} {hour minute second nano : Nat} :
      Numeral [1, 2] h hour → Numeral [2] m minute → Seconds s second → FractionText f nano →
      ClockText Seconds (' ' :: (h ++ ':' :: (m ++ ':' :: (s ++ '.' :: f)))) ⟨hour, minute, second, nano⟩

/-- The two digits that are read as seconds. With a digit of another script they count as none. -/
inductive ReadSeconds (text : List Char) : Nat → Prop
  | ascii {n : Nat} : Numeral [2] text n → ReadSeconds text n
  | foreign : text.length = 2 → (∀ c ∈ text, isDecimalDigit c = true) → (∃ c ∈ text, 128 ≤ c.toNat) → ReadSeconds text 0

/-- A plain date, perhaps with a time of day. -/
inductive PlainText (Seconds : List Char → Nat → Prop) : List Char → CivilTime → Prop
  | mk {d c : List Char} {date : Date} {clock : ClockTime} : DateText d date → ClockText Seconds c clock →
      PlainText Seconds (d ++ c) ⟨date.year, date.month, date.day, clock.hour, clock.minute, clock.second, clock.nano⟩

/-! What the reader takes. -/

theorem readSeconds_iff {text : List Char} {n : Nat} :
    ReadSeconds text n ↔ text.length = 2 ∧ (∀ c ∈ text, isDecimalDigit c = true) ∧ secondsOf text = n := by
  constructor
  · rintro (numeral | ⟨length, digits, foreign, member, late⟩)
    · refine ⟨numeral.length_eq, numeral.isDecimalDigit, ?_⟩
      rw [secondsOf, numeral.read, Option.getD_some]
    · refine ⟨length, digits, ?_⟩
      have unread : naturalOf? text = none := by
        rw [Option.eq_none_iff_forall_ne_some]
        intro n read
        have bounds := toNat_of_isDigit ((isDigits_of_naturalOf? read).digit foreign member)
        omega
      rw [secondsOf, unread, Option.getD_none]
  · rintro ⟨length, digits, rfl⟩
    cases read : naturalOf? text with
    | some n =>
      rw [secondsOf, read, Option.getD_some]
      exact .ascii (.of_read (List.mem_singleton.mpr length) read)
    | none =>
      have foreign : ∃ c ∈ text, 128 ≤ c.toNat := by
        by_contra ascii
        push Not at ascii
        have plain : IsDigits text := by
          refine ⟨List.ne_nil_of_length_pos (by omega), fun c member => ?_⟩
          have early := ascii c member
          exact (isDigit_or_of_isDecimalDigit (digits c member)).resolve_right (by omega)
        rw [naturalOf?_of_digits plain] at read
        exact nomatch read
      rw [secondsOf, read, Option.getD_none]
      exact .foreign length digits foreign

theorem FractionText.isDecimalDigit {text : List Char} {nano : Nat} (written : FractionText text nano) :
    ∀ c ∈ text, isDecimalDigit c = true := by
  cases written with
  | tenths numeral => exact numeral.isDecimalDigit
  | hundredths numeral => exact numeral.isDecimalDigit

theorem fractionNanos?_eq_some_iff {text : List Char} {nano : Nat} :
    fractionNanos? text = some nano ↔ FractionText text nano := by
  constructor
  · intro read
    rw [fractionNanos?] at read
    split at read
    · rename_i length
      obtain ⟨n, digits, rfl⟩ := Option.map_eq_some_iff.mp read
      exact .tenths (.of_read (List.mem_singleton.mpr length) digits)
    · split at read
      · rename_i length
        obtain ⟨n, digits, rfl⟩ := Option.map_eq_some_iff.mp read
        exact .hundredths (.of_read (List.mem_singleton.mpr length) digits)
      · exact nomatch read
  · rintro (tenths | hundredths)
    · rw [fractionNanos?, if_pos tenths.length_eq, tenths.read, Option.map_some]
    · have length : text.length = 2 := hundredths.length_eq
      rw [fractionNanos?, if_neg (by omega), if_pos length, hundredths.read, Option.map_some]

theorem dateText_of_arranged? {separator : Char} {a b c : List Char} {date : Date}
    (read : arranged? separator a b c = some date) : DateText (a ++ separator :: (b ++ separator :: c)) date := by
  simp only [arranged?, isShort_iff, Option.bind_eq_bind, Option.pure_def] at read
  split at read
  · rename_i shape
    obtain ⟨rfl, wide, short, short'⟩ := shape
    simp only [Option.bind_eq_some_iff, Option.some.injEq] at read
    obtain ⟨year, first, month, second, day, third, rfl⟩ := read
    exact .yearFirst (.of_read (List.mem_singleton.mpr wide) first)
      (.of_read short second) (.of_read short' third)
  split at read
  · rename_i shape
    obtain ⟨short, short', separated, wide⟩ := shape
    simp only [Option.bind_eq_some_iff, Option.some.injEq] at read
    obtain ⟨year, third, month, first, day, second, rfl⟩ := read
    exact .yearLast separated (.of_read short first)
      (.of_read short' second) (.of_read (List.mem_singleton.mpr wide) third)
  split at read
  · rename_i shape
    obtain ⟨short, short', rfl, wide⟩ := shape
    simp only [Option.bind_eq_some_iff, Option.some.injEq] at read
    obtain ⟨year, third, month, first, day, second, rfl⟩ := read
    exact .shortYear (.of_read short first)
      (.of_read short' second) (.of_read (List.mem_singleton.mpr wide) third)
  · exact nomatch read

theorem clockText_of_clock? {text : List Char} {clock : ClockTime} :
    clock? text = some clock → ClockText ReadSeconds text clock := by
  -- The first four cases read a whole time of day, from midnight on to one with a fraction.
  fun_cases clock? text with
  | case1 =>
    rintro ⟨⟩
    exact .midnight
  | case2 text h rest hours m shape minutes =>
    simp only [Option.bind_eq_bind, Option.pure_def, Option.bind_eq_some_iff, Option.some.injEq]
    rintro ⟨hour, hourRead, minute, minuteRead, rfl⟩
    obtain ⟨rfl, -⟩ := eq_of_digitRun hours
    obtain ⟨rfl, -⟩ := eq_of_digitRun minutes
    rw [List.append_nil]
    exact .minutes (.of_read (isShort_iff.mp shape.1) hourRead) (.of_read (List.mem_singleton.mpr shape.2) minuteRead)
  | case3 text h rest hours m shape rest' s wide minutes seconds =>
    simp only [Option.bind_eq_bind, Option.pure_def, Option.bind_eq_some_iff, Option.some.injEq]
    rintro ⟨hour, hourRead, minute, minuteRead, rfl⟩
    obtain ⟨rfl, -⟩ := eq_of_digitRun hours
    obtain ⟨rfl, -⟩ := eq_of_digitRun minutes
    obtain ⟨rfl, digits⟩ := eq_of_digitRun seconds
    rw [List.append_nil]
    exact .seconds (.of_read (isShort_iff.mp shape.1) hourRead) (.of_read (List.mem_singleton.mpr shape.2) minuteRead)
      (readSeconds_iff.mpr ⟨wide, digits, rfl⟩)
  | case4 text h rest hours m shape rest' s wide rest'' f fraction minutes seconds =>
    simp only [Option.bind_eq_bind, Option.pure_def, Option.bind_eq_some_iff, Option.some.injEq]
    rintro ⟨hour, hourRead, minute, minuteRead, nano, nanoRead, rfl⟩
    obtain ⟨rfl, -⟩ := eq_of_digitRun hours
    obtain ⟨rfl, -⟩ := eq_of_digitRun minutes
    obtain ⟨rfl, digits⟩ := eq_of_digitRun seconds
    obtain ⟨rfl, -⟩ := eq_of_digitRun fraction
    rw [List.append_nil]
    exact .fraction (.of_read (isShort_iff.mp shape.1) hourRead) (.of_read (List.mem_singleton.mpr shape.2) minuteRead)
      (readSeconds_iff.mpr ⟨wide, digits, rfl⟩) (fractionNanos?_eq_some_iff.mp nanoRead)
  | case5 | case6 | case7 | case8 | case9 | case10 | case11 => exact nofun

theorem plainText_of_ofPlain? {text : List Char} {t : Instant} :
    ofPlain? text = some t → ∃ time, PlainText ReadSeconds text time ∧ time.instant? 0 = some t := by
  fun_cases ofPlain? text with
  | case1 a text' b separator text'' second c rest third first =>
    simp only [Option.bind_eq_bind, Option.bind_eq_some_iff]
    rintro ⟨date, dateRead, clock, clockRead, shown⟩
    obtain ⟨rfl, -⟩ := eq_of_digitRun first
    obtain ⟨rfl, -⟩ := eq_of_digitRun second
    obtain ⟨rfl, -⟩ := eq_of_digitRun third
    refine ⟨_, ?_, shown⟩
    have joined := PlainText.mk (dateText_of_arranged? dateRead) (clockText_of_clock? clockRead)
    simpa using joined
  | case2 | case3 | case4 => exact nofun

/-! And everything of the grammar is taken. -/

theorem isDecimalDigit_dash : isDecimalDigit '-' = false := by decide

theorem isDecimalDigit_slash : isDecimalDigit '/' = false := by decide

theorem isDecimalDigit_blank : isDecimalDigit ' ' = false := by decide

theorem isDecimalDigit_colon : isDecimalDigit ':' = false := by decide

theorem isDecimalDigit_point : isDecimalDigit '.' = false := by decide

theorem clock?_of_clockText {text : List Char} {clock : ClockTime} (written : ClockText ReadSeconds text clock) :
    clock? text = some clock := by
  cases written with
  | midnight => rfl
  | minutes hours minutes =>
    simp only [clock?, digitRun_cons hours.isDecimalDigit isDecimalDigit_colon, digitRun_all minutes.isDecimalDigit,
      isShort_iff.mpr hours.width, minutes.length_eq, hours.read, minutes.read]
    rfl
  | seconds hours minutes seconds =>
    obtain ⟨wide, digits, value⟩ := readSeconds_iff.mp seconds
    simp only [clock?, digitRun_cons hours.isDecimalDigit isDecimalDigit_colon,
      digitRun_cons minutes.isDecimalDigit isDecimalDigit_colon, digitRun_all digits, isShort_iff.mpr hours.width,
      minutes.length_eq, wide, hours.read, minutes.read, value]
    rfl
  | fraction hours minutes seconds fraction =>
    obtain ⟨wide, digits, value⟩ := readSeconds_iff.mp seconds
    simp only [clock?, digitRun_cons hours.isDecimalDigit isDecimalDigit_colon,
      digitRun_cons minutes.isDecimalDigit isDecimalDigit_colon, digitRun_cons digits isDecimalDigit_point,
      digitRun_all fraction.isDecimalDigit, isShort_iff.mpr hours.width,
      minutes.length_eq, wide, hours.read, minutes.read, value,
      fractionNanos?_eq_some_iff.mpr fraction]
    rfl

/-- A date is three runs of digits with one character between them that is not a digit. -/
theorem exists_arranged? {text : List Char} {date : Date} (written : DateText text date) :
    ∃ separator a b c, text = a ++ separator :: (b ++ separator :: c) ∧ isDecimalDigit separator = false ∧
      (∀ x ∈ a, isDecimalDigit x = true) ∧ (∀ x ∈ b, isDecimalDigit x = true) ∧ (∀ x ∈ c, isDecimalDigit x = true) ∧
      arranged? separator a b c = some date := by
  cases written with
  | yearFirst year month day =>
    refine ⟨_, _, _, _, rfl, isDecimalDigit_dash, year.isDecimalDigit, month.isDecimalDigit, day.isDecimalDigit, ?_⟩
    rw [arranged?, if_pos ⟨rfl, year.length_eq, isShort_iff.mpr month.width,
      isShort_iff.mpr day.width⟩, year.read, month.read, day.read]
    rfl
  | @yearLast m _ _ separator _ _ _ separated month day year =>
    have stop : isDecimalDigit separator = false := by
      rcases separated with rfl | rfl
      · exact isDecimalDigit_dash
      · exact isDecimalDigit_slash
    have narrow : m.length ≠ 4 := by
      have short := month.width
      intro wide
      simp [wide] at short
    refine ⟨_, _, _, _, rfl, stop, month.isDecimalDigit, day.isDecimalDigit, year.isDecimalDigit, ?_⟩
    rw [arranged?, if_neg fun first => narrow first.2.1, if_pos ⟨isShort_iff.mpr month.width, isShort_iff.mpr day.width,
      separated, year.length_eq⟩, month.read, day.read, year.read]
    rfl
  | shortYear month day year =>
    have wide := year.length_eq
    refine ⟨_, _, _, _, rfl, isDecimalDigit_slash, month.isDecimalDigit, day.isDecimalDigit, year.isDecimalDigit, ?_⟩
    rw [arranged?, if_neg fun first => absurd first.1 (by decide), if_neg fun second => by omega,
      if_pos ⟨isShort_iff.mpr month.width, isShort_iff.mpr day.width, rfl, wide⟩, month.read, day.read, year.read]
    rfl

theorem ClockText.stop {Seconds : List Char → Nat → Prop} {text : List Char} {clock : ClockTime}
    (written : ClockText Seconds text clock) : ∀ c ∈ text.head?, isDecimalDigit c = false := by
  cases written <;> simp [isDecimalDigit_blank]

theorem ofPlain?_of_plainText {text : List Char} {time : CivilTime} (written : PlainText ReadSeconds text time) :
    ofPlain? text = time.instant? 0 := by
  obtain ⟨dateWritten, clockWritten⟩ := written
  obtain ⟨separator, a, b, c, rfl, stop, first, second, third, arranged⟩ := exists_arranged? dateWritten
  simp only [List.append_assoc, List.cons_append, ofPlain?, digitRun_cons first stop, digitRun_cons second stop,
    digitRun_append third clockWritten.stop, arranged, clock?_of_clockText clockWritten]
  rfl

/-- A date that a time follows without a blank is not plain. -/
theorem ofPlain?_of_no_blank {a b c rest : List Char} (first : ∀ x ∈ a, isDecimalDigit x = true)
    (second : ∀ x ∈ b, isDecimalDigit x = true) (third : ∀ x ∈ c, isDecimalDigit x = true) :
    ofPlain? (a ++ '-' :: (b ++ '-' :: (c ++ 'T' :: rest))) = none := by
  have stop : isDecimalDigit 'T' = false := by decide
  simp only [ofPlain?, digitRun_cons first isDecimalDigit_dash, digitRun_cons second isDecimalDigit_dash,
    digitRun_cons third stop, if_true, clock?]
  simp

/-! Of what is written, only the seconds can have characters outside of ASCII. -/

section

variable {Seconds : List Char → Nat → Prop} {text : List Char} {time : CivilTime} {t : Instant}

theorem DateText.isAscii {date : Date} (written : DateText text date) : IsAscii text := by
  cases written with
  | yearFirst year month day => simp [year.isAscii, month.isAscii, day.isAscii]
  | yearLast separated month day year =>
    rcases separated with rfl | rfl <;> simp [year.isAscii, month.isAscii, day.isAscii]
  | shortYear month day year => simp [year.isAscii, month.isAscii, day.isAscii]

theorem FractionText.isAscii {nano : Nat} (written : FractionText text nano) : IsAscii text := by
  cases written with
  | tenths numeral => exact numeral.isAscii
  | hundredths numeral => exact numeral.isAscii

theorem numeral_iff_readSeconds {n : Nat} : Numeral [2] text n ↔ ReadSeconds text n ∧ IsAscii text := by
  constructor
  · exact fun numeral => ⟨.ascii numeral, numeral.isAscii⟩
  · rintro ⟨numeral | ⟨_, _, c, member, late⟩, ascii⟩
    · exact numeral
    · exact absurd (ascii c member) (by omega)

theorem clockText_numeral_iff {clock : ClockTime} :
    ClockText (Numeral [2]) text clock ↔ ClockText ReadSeconds text clock ∧ IsAscii text := by
  constructor
  · rintro (_ | ⟨hours, minutes⟩ | ⟨hours, minutes, seconds⟩ | ⟨hours, minutes, seconds, fraction⟩)
    · exact ⟨.midnight, isAscii_nil⟩
    · exact ⟨.minutes hours minutes, by simp [hours.isAscii, minutes.isAscii]⟩
    · exact ⟨.seconds hours minutes (.ascii seconds), by simp [hours.isAscii, minutes.isAscii, seconds.isAscii]⟩
    · exact ⟨.fraction hours minutes (.ascii seconds) fraction,
        by simp [hours.isAscii, minutes.isAscii, seconds.isAscii, fraction.isAscii]⟩
  · rintro ⟨_ | ⟨hours, minutes⟩ | ⟨hours, minutes, seconds⟩ | ⟨hours, minutes, seconds, fraction⟩, ascii⟩
    · exact .midnight
    · exact .minutes hours minutes
    · simp only [isAscii_cons, isAscii_append] at ascii
      exact .seconds hours minutes (numeral_iff_readSeconds.mpr ⟨seconds, ascii.2.2.2.2.2⟩)
    · simp only [isAscii_cons, isAscii_append] at ascii
      exact .fraction hours minutes (numeral_iff_readSeconds.mpr ⟨seconds, ascii.2.2.2.2.2.1⟩) fraction

theorem plainText_numeral_iff :
    PlainText (Numeral [2]) text time ↔ PlainText ReadSeconds text time ∧ IsAscii text := by
  constructor
  · rintro ⟨date, clock⟩
    obtain ⟨read, ascii⟩ := clockText_numeral_iff.mp clock
    exact ⟨.mk date read, isAscii_append.mpr ⟨date.isAscii, ascii⟩⟩
  · rintro ⟨⟨date, clock⟩, ascii⟩
    exact .mk date (clockText_numeral_iff.mpr ⟨clock, (isAscii_append.mp ascii).2⟩)

/-! Every time that is written and valid is an instant. -/

theorem PlainText.year_le (written : PlainText Seconds text time) : 0 ≤ time.year ∧ time.year ≤ 9999 := by
  obtain ⟨date, _⟩ := written
  cases date with
  | yearFirst year _ _ =>
    have bound := year.lt_pow
    dsimp only
    omega
  | yearLast _ _ _ year =>
    have bound := year.lt_pow
    dsimp only
    omega
  | shortYear _ _ year =>
    have bound := year.lt_pow
    dsimp only [fullYear]
    split <;> omega

theorem FractionText.lt {nano : Nat} (written : FractionText text nano) : nano < 1000000000 := by
  cases written with
  | tenths numeral =>
    have bound := numeral.lt_pow
    omega
  | hundredths numeral =>
    have bound := numeral.lt_pow
    omega

theorem PlainText.nano_lt (written : PlainText Seconds text time) : time.nano < 1000000000 := by
  obtain ⟨_, _ | _ | _ | ⟨_, _, _, fraction⟩⟩ := written
  case fraction => exact fraction.lt
  all_goals exact Nat.zero_lt_succ _

theorem PlainText.isValid_civil (written : PlainText Seconds text t.civil) : t.civil.IsValid :=
  Instant.isValid_civil (isLeap_eq_false_iff.mpr written.nano_lt)

/-- A plain date is read as the instant of the time that it writes. -/
theorem ofPlain?_eq_some_iff : ofPlain? text = some t ↔ PlainText ReadSeconds text t.civil := by
  constructor
  · intro read
    obtain ⟨time, written, shown⟩ := plainText_of_ofPlain? read
    obtain ⟨-, rfl⟩ := CivilTime.instant?_universal_iff.mp shown
    exact written
  · intro written
    rw [ofPlain?_of_plainText written]
    exact CivilTime.instant?_universal_iff.mpr ⟨written.isValid_civil, rfl⟩

theorem exists_ofPlain?_iff :
    (∃ t, ofPlain? text = some t) ↔ ∃ time, PlainText ReadSeconds text time ∧ time.IsValid := by
  constructor
  · rintro ⟨t, read⟩
    obtain ⟨time, written, shown⟩ := plainText_of_ofPlain? read
    exact ⟨time, written, (CivilTime.instant?_universal_iff.mp shown).1⟩
  · rintro ⟨time, written, valid⟩
    obtain ⟨low, high⟩ := written.year_le
    obtain ⟨t, rfl⟩ := CivilTime.exists_civil_eq valid low high
    exact ⟨t, ofPlain?_eq_some_iff.mpr written⟩

end

end Instant
end Tenancy
