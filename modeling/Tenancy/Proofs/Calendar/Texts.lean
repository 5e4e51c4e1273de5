import Tenancy.Proofs.Calendar.Zoned
import Tenancy.Value

/-! Reading the texts of instants. The text of an instant with three places of the second is read as the
instant that it shows, cut to milliseconds, if the year has four digits and no leap second is shown, and
else it is not read at all. -/
namespace Tenancy

open scoped Powers

namespace Instant

/-- The instant without what is shorter than a millisecond. -/
def wholeMillis (t : Instant) : Instant where
  second := t.second
  nano := t.nano / 1000000 * 1000000
  earliest_le := t.earliest_le
  le_latest := t.le_latest
  nano_lt := by have := t.nano_lt; omega

/-- The instant that the text shows. Nanoseconds beyond the second are those of the second after it, but at the
end of a minute, where they are inside a leap second. -/
def settled (t : Instant) : Instant :=
  if beyond : t.isLeap = true ∧ t.second % 60 ≠ 59 then
    { second := t.second + 1
      nano := t.nano - 1000000000
      earliest_le := by have := t.earliest_le; omega
      -- The latest second ends a minute, so this one comes before it.
      le_latest := by have := t.le_latest; omega
      nano_lt := by have := t.nano_lt; omega }
  else t

/-- Whether the text of the instant is one of the forms that are read. -/
def IsReadable (t : Instant) : Prop := (0 ≤ t.date.year ∧ t.date.year ≤ 9999) ∧ t.settled.isLeap = false

/-- The instants that the texts stand for: they are read, and nothing of them is cut or carried. -/
def IsWritten (t : Instant) : Prop :=
  (0 ≤ t.date.year ∧ t.date.year ≤ 9999) ∧ t.isLeap = false ∧ t.nano % 1000000 = 0

instance (t : Instant) : Decidable t.IsReadable := by unfold IsReadable; infer_instance

instance (t : Instant) : Decidable t.IsWritten := by unfold IsWritten; infer_instance

/-! What is settled has the same text, and beyond its second no instant but one inside a leap second. -/

theorem settled_of_early {t : Instant} (early : t.isLeap = false) : t.settled = t := by
  rw [settled, dif_neg]
  rintro ⟨late, _⟩
  exact absurd late (Bool.eq_false_iff.mp early)

section Beyond

variable {t : Instant} (late : t.isLeap = true) (middle : t.second % 60 ≠ 59)
include late middle

theorem settled_second : t.settled.second = t.second + 1 := by
  rw [settled, dif_pos ⟨late, middle⟩]

theorem settled_nano : t.settled.nano = t.nano - 1000000000 := by
  rw [settled, dif_pos ⟨late, middle⟩]

theorem isLeap_settled : t.settled.isLeap = false := by
  have bound := t.nano_lt
  rw [isLeap_eq_false_iff, settled_nano late middle]
  omega

theorem date_settled_of_middle : t.settled.date = t.date := by
  have day : (t.second + 1) / 86400 = t.second / 86400 := by omega
  rw [date, date, settled_second late middle, day]

theorem secondOfDay_settled : t.settled.secondOfDay = t.secondOfDay + 1 := by
  rw [secondOfDay, secondOfDay, settled_second late middle]
  omega

/-- The minute goes on, so that only the second is another one. -/
theorem text_settled_of_middle (places : Nat) : t.settled.text places = t.text places := by
  have bound : 1000000000 ≤ t.nano := of_decide_eq_true late
  have nanos : t.settled.nano % 1000000000 = t.nano % 1000000000 := by
    rw [settled_nano late middle]
    omega
  have second : t.secondOfDay % 60 ≠ 59 := by
    rw [secondOfDay]
    omega
  have hour : (t.secondOfDay + 1) / 3600 = t.secondOfDay / 3600 := by omega
  have minute : (t.secondOfDay + 1) / 60 % 60 = t.secondOfDay / 60 % 60 := by omega
  have next : (t.secondOfDay + 1) % 60 = t.secondOfDay % 60 + 1 := by omega
  rw [text, text, date_settled_of_middle late middle, isLeap_settled late middle, late,
    secondOfDay_settled late middle, nanos, hour, minute, next]
  rfl

end Beyond

theorem settled_cases (t : Instant) :
    (t.settled = t ∧ (t.isLeap = true → t.second % 60 = 59)) ∨ (t.isLeap = true ∧ t.second % 60 ≠ 59) := by
  by_cases beyond : t.isLeap = true ∧ t.second % 60 ≠ 59
  · exact .inr beyond
  · exact .inl ⟨dif_neg beyond, fun late => Decidable.not_not.mp fun middle => beyond ⟨late, middle⟩⟩

theorem date_settled (t : Instant) : t.settled.date = t.date := by
  obtain ⟨same, _⟩ | ⟨late, middle⟩ := t.settled_cases
  · rw [same]
  · exact date_settled_of_middle late middle

theorem text_settled (places : Nat) (t : Instant) : t.settled.text places = t.text places := by
  obtain ⟨same, _⟩ | ⟨late, middle⟩ := t.settled_cases
  · rw [same]
  · exact text_settled_of_middle late middle places

/-- Beyond the second that is shown only a leap second counts on. -/
theorem second_settled {t : Instant} (late : t.settled.isLeap = true) : t.settled.second % 60 = 59 := by
  obtain ⟨same, regular⟩ | ⟨late', middle⟩ := t.settled_cases
  · rw [same] at late ⊢
    exact regular late
  · exact absurd late (Bool.eq_false_iff.mp (isLeap_settled late' middle))

end Instant

theorem Numeral.padded {width n : Nat} (positive : 0 < width) (bound : n < 10 ^ width) :
    Numeral [width] (paddedText width n).toList n :=
  .of_read (List.mem_singleton.mpr (length_paddedText positive bound)) (naturalOf?_paddedText width n)

namespace Instant

/-- The text of an instant after its year. -/
def restText (t : Instant) : List Char :=
  '-' :: ((paddedText 2 t.date.month).toList ++ '-' :: ((paddedText 2 t.date.day).toList
    ++ 'T' :: ((paddedText 2 (t.secondOfDay / 3600)).toList
    ++ ':' :: ((paddedText 2 (t.secondOfDay / 60 % 60)).toList
    ++ ':' :: ((paddedText 2 (t.secondOfDay % 60 + if t.isLeap then 1 else 0)).toList
    ++ '.' :: ((paddedText 3 (t.nano % 1000000000 / 1000000)).toList ++ ['Z']))))))

theorem text_toList (t : Instant) : (t.text 3).toList = (yearText t.date.year).toList ++ t.restText := by
  simp [text, restText]

/-- What the text of an instant shows. -/
def shown (t : Instant) : CivilTime where
  year := t.date.year
  month := t.date.month
  day := t.date.day
  hour := t.secondOfDay / 3600
  minute := t.secondOfDay / 60 % 60
  second := t.secondOfDay % 60 + if t.isLeap then 1 else 0
  nano := t.nano % 1000000000 / 1000000 * 1000000

theorem month_le (t : Instant) : t.date.month ≤ 12 := t.isValid_date.2.1

theorem day_le (t : Instant) : t.date.day ≤ 31 := t.isValid_date.2.2.2.trans (Date.daysInMonth_le _ _)

theorem second_lt (t : Instant) : t.secondOfDay % 60 + (if t.isLeap then 1 else 0) < 100 := by
  split <;> omega

/-- Milliseconds are the first three of the nine digits that count. -/
theorem nanosText_millis {millis : Nat} (bound : millis < 1000) :
    NanosText (paddedText 3 millis).toList (millis * 1000000) := by
  have read := naturalOf?_paddedText 3 millis
  have length : (paddedText 3 millis).toList.length = 3 := length_paddedText (by decide) bound
  have cut : ((paddedText 3 millis).toList ++ List.replicate 9 '0').take 9 =
      (paddedText 3 millis).toList ++ List.replicate 6 '0' := by
    rw [List.take_append, length, List.take_of_length_le (by rw [length]; decide)]
    rfl
  rw [← nanosOf?_eq_some_iff, nanosOf?, read, Option.bind_some, cut,
    naturalOf?_append_zeros (isDigits_paddedText _ _) read, Nat.mul_comm]
  rfl

/-- A text with a year of four digits writes the time that it shows, in universal time. -/
theorem zonedText_text {t : Instant} (low : 0 ≤ t.date.year) (high : t.date.year ≤ 9999) :
    ZonedText ((yearText t.date.year).toList ++ t.restText) t.shown 0 := by
  have secondOfDay := t.secondOfDay_lt
  have months := t.month_le
  have days := t.day_le
  have year : Numeral [4] (yearText t.date.year).toList t.date.year.toNat := by
    rw [yearText, if_pos ⟨low, high⟩]
    exact .padded (by decide) (by omega)
  have same : (t.date.year.toNat : Int) = t.date.year := Int.toNat_of_nonneg low
  have millis : t.nano % 1000000000 / 1000000 < 1000 := by omega
  have pair {n : Nat} (bound : n < 100) : Numeral [2] (paddedText 2 n).toList n := .padded (by decide) bound
  have written := ZonedText.mk year (pair (by omega : t.date.month < 100)) (pair (by omega : t.date.day < 100))
    (pair (by omega : t.secondOfDay / 3600 < 100)) (pair (by omega : t.secondOfDay / 60 % 60 < 100))
    (pair t.second_lt) (nanosText_millis millis) .universal
  rwa [same] at written

theorem isLeap_wholeMillis (t : Instant) : t.wholeMillis.isLeap = t.isLeap := by
  have same : 1000000000 ≤ t.nano / 1000000 * 1000000 ↔ 1000000000 ≤ t.nano := by omega
  rw [isLeap, isLeap, decide_eq_decide]
  exact same

theorem shown_eq {t : Instant} (early : t.isLeap = false) : t.shown = t.wholeMillis.civil := by
  rw [shown, early, Nat.mod_eq_of_lt (isLeap_eq_false_iff.mp early)]
  rfl

/-- What is shown is the instant, but for a leap second, which no time of day has. -/
theorem instant?_shown {t : Instant} (regular : t.isLeap = true → t.second % 60 = 59) :
    t.shown.instant? 0 = if t.isLeap then none else some t.wholeMillis := by
  cases leap : t.isLeap with
  | true =>
    have last := regular leap
    have secondOfDay : (t.secondOfDay : Int) = t.second % 86400 := Int.toNat_of_nonneg (by omega)
    have invalid : ¬ t.shown.IsValid := by
      rintro ⟨_, _, _, second, _⟩
      rw [shown, leap] at second
      change t.secondOfDay % 60 + 1 < 60 at second
      omega
    rw [CivilTime.instant?, if_neg invalid]
    rfl
  | false =>
    have early : t.wholeMillis.isLeap = false := t.isLeap_wholeMillis.trans leap
    rw [shown_eq leap]
    exact CivilTime.instant?_universal_iff.mpr ⟨isValid_civil early, rfl⟩

/-! No other form is read either. -/

theorem ofPlain?_of_year {t : Instant} (low : 0 ≤ t.date.year) (high : t.date.year ≤ 9999) :
    ofPlain? ((yearText t.date.year).toList ++ t.restText) = none := by
  have digits (width n : Nat) : ∀ c ∈ (paddedText width n).toList, isDecimalDigit c = true :=
    (isDigits_paddedText width n).isDecimalDigit
  rw [yearText, if_pos ⟨low, high⟩, restText]
  exact ofPlain?_of_no_blank (digits _ _) (digits _ _) (digits _ _)

/-- A year after a sign is not read. -/
theorem ofPlain?_of_sign {t : Instant} {digits : List Char} {sign : Char} (run : IsDigits digits)
    (signed : sign = '-' ∨ sign = '+') : ofPlain? (sign :: digits ++ t.restText) = none := by
  have stop : isDecimalDigit sign = false := by
    rcases signed with rfl | rfl <;> decide
  have start : digitRun (sign :: digits ++ t.restText) = ([], sign :: (digits ++ t.restText)) := by
    simp [digitRun, stop]
  rw [ofPlain?, start, restText]
  simp only [digitRun_cons run.isDecimalDigit isDecimalDigit_dash,
    digitRun_cons (isDigits_paddedText _ _).isDecimalDigit isDecimalDigit_dash]
  simp [arranged?, isShort]

theorem ofZoned?_of_sign {rest digits : List Char} {sign : Char} (run : IsDigits digits) (long : 4 ≤ digits.length) :
    ofZoned? (sign :: digits ++ rest) = none := by
  match digits, long with
  | a :: b :: c :: d :: more, _ =>
    have digit := run.digit d (by simp)
    have other : d ≠ '-' := by
      rintro rfl
      exact absurd digit (by decide)
    simp [ofZoned?, other]

theorem yearText_of_sign {year : Int} (long : ¬ (0 ≤ year ∧ year ≤ 9999)) :
    ∃ sign, (sign = '-' ∨ sign = '+') ∧ (yearText year).toList = sign :: (paddedText 4 year.natAbs).toList := by
  rw [yearText, if_neg long]
  split
  · exact ⟨'-', .inl rfl, by simp⟩
  · exact ⟨'+', .inr rfl, by simp⟩

theorem parse?_text_of_year {t : Instant} (regular : t.isLeap = true → t.second % 60 = 59)
    (low : 0 ≤ t.date.year) (high : t.date.year ≤ 9999) :
    parse? (t.text 3) = if t.isLeap then none else some t.wholeMillis := by
  rw [parse?, text_toList, ofZoned?_of_zonedText (zonedText_text low high), instant?_shown regular,
    ofPlain?_of_year low high]
  cases t.isLeap <;> rfl

theorem parse?_text_of_sign {t : Instant} (long : ¬ (0 ≤ t.date.year ∧ t.date.year ≤ 9999)) :
    parse? (t.text 3) = none := by
  obtain ⟨sign, signed, same⟩ := yearText_of_sign long
  have run := isDigits_paddedText 4 t.date.year.natAbs
  rw [parse?, text_toList, same, ofZoned?_of_sign run (le_length_paddedText _ _), ofPlain?_of_sign run signed]

theorem parse?_text (t : Instant) : parse? (t.text 3) = if t.IsReadable then some t.settled.wholeMillis else none := by
  by_cases plain : 0 ≤ t.date.year ∧ t.date.year ≤ 9999
  · obtain ⟨low, high⟩ := t.date_settled ▸ plain
    rw [← text_settled, parse?_text_of_year second_settled low high]
    cases leap : t.settled.isLeap <;> simp [IsReadable, plain, leap]
  · rw [parse?_text_of_sign plain, if_neg fun readable => plain readable.1]

theorem wholeMillis_eq_self {t : Instant} (whole : t.nano % 1000000 = 0) : t.wholeMillis = t := by
  have nano : t.nano / 1000000 * 1000000 = t.nano := by omega
  simp only [wholeMillis, nano]

/-- An instant is one of those that the texts stand for just when its own text is read as it. -/
theorem isWritten_iff {t : Instant} : t.IsWritten ↔ t.IsReadable ∧ t.settled.wholeMillis = t := by
  constructor
  · rintro ⟨plain, early, whole⟩
    rw [IsReadable, settled_of_early early]
    exact ⟨⟨plain, early⟩, wholeMillis_eq_self whole⟩
  · rintro ⟨⟨plain, early⟩, same⟩
    rw [← isLeap_wholeMillis, same] at early
    rw [settled_of_early early] at same
    have nano : t.nano / 1000000 * 1000000 = t.nano := congrArg Instant.nano same
    exact ⟨plain, early, by omega⟩

theorem parse?_text_of_isWritten {t : Instant} (written : t.IsWritten) : parse? (t.text 3) = some t := by
  obtain ⟨readable, same⟩ := isWritten_iff.mp written
  rw [parse?_text, if_pos readable, same]

/-- Outside of leap seconds the text of an instant is read as its whole milliseconds if its year has up to four
digits, and else not at all. No other instant of whole milliseconds and such a year has this text. -/
theorem timestamp_text_read {t : Instant} (early : t.isLeap = false) :
    ∃ text, (Value.timestamp t).toJson = .string text ∧
      parse? text = (if 0 ≤ t.date.year ∧ t.date.year ≤ 9999 then some t.wholeMillis else none) ∧
      (t.IsWritten → parse? text = some t ∧
        ∀ u : Instant, u.IsWritten → (Value.timestamp u).toJson = .string text → u = t) := by
  refine ⟨t.text 3, rfl, ?_, fun written => ⟨parse?_text_of_isWritten written, ?_⟩⟩
  · rw [parse?_text, settled_of_early early]
    simp only [IsReadable, settled_of_early early, early, and_true]
  · intro u written' same
    have texts : u.text 3 = t.text 3 := Json.string.inj same
    apply Option.some.inj
    rw [← parse?_text_of_isWritten written', texts, parse?_text_of_isWritten written]

/-- The last second of February in 1968. -/
theorem timestamp_text_read_of_leapDay :
    ∃ t : Instant, t.second < 0 ∧ t.isLeap = false ∧ t.date = ⟨1968, 2, 29⟩ ∧ t.nano = 123456789 ∧
      ∃ text, (Value.timestamp t).toJson = .string text ∧ parse? text = some t.wholeMillis := by
  let t : Instant := ⟨-57974401, 123456789, by decide, by decide, by decide⟩
  have date : t.date = ⟨1968, 2, 29⟩ := by decide
  obtain ⟨text, written, read, _⟩ := timestamp_text_read (t := t) (by decide)
  rw [date, if_pos (by decide)] at read
  exact ⟨t, by decide, by decide, date, rfl, text, written, read⟩

end Instant
end Tenancy
