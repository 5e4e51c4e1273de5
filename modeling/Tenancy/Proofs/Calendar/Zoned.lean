import Tenancy.Proofs.Calendar.Plain

/-! The grammar of dates with a time of day, a fraction of the second and a zone. What is read has the ISO 8601
form, in which the digits can be of any script. -/
namespace Tenancy

namespace Numeral

variable {text : List Char} {n : Nat}

theorem exists_pair (numeral : Numeral [2] text n) : ∃ a b, text = [a, b] :=
  List.length_eq_two.mp numeral.length_eq

theorem exists_four (numeral : Numeral [4] text n) : ∃ a b c d, text = [a, b, c, d] := by
  have length : text.length = 4 := numeral.length_eq
  match text, length with
  | [a, b, c, d], _ => exact ⟨a, b, c, d, rfl⟩

end Numeral

namespace Instant

/-- The digits of a fraction of the second. Those after the ninth are not counted. -/
structure NanosText (text : List Char) (nano : Nat) : Prop where
  digits : IsDigits text
  value : Nat.ofDigitChars 10 ((text ++ List.replicate 9 '0').take 9) 0 = nano

/-- A zone, and the seconds that its clocks are ahead of universal time. -/
inductive ZoneText : List Char → Int → Prop
  | universal : ZoneText ['Z'] 0
  | east {h m : List Char} {hour minute : Nat} :
      Numeral [2] h hour → Numeral [2] m minute → hour < 24 → minute < 60 →
      ZoneText ('+' :: (h ++ ':' :: m)) (hour * 3600 + minute * 60)
  | west {h m : List Char} {hour minute : Nat} :
      Numeral [2] h hour → Numeral [2] m minute → hour < 24 → minute < 60 →
      ZoneText ('-' :: (h ++ ':' :: m)) (-(hour * 3600 + minute * 60))

/-- A date and a time of day, and the seconds that the zone is ahead. -/
inductive ZonedText : List Char → CivilTime → Int → Prop
  | mk {y m d h n s f z : List Char} {year month day hour minute second nano : Nat} {ahead : Int} :
      Numeral [4] y year → Numeral [2] m month → Numeral [2] d day →
      Numeral [2] h hour → Numeral [2] n minute → Numeral [2] s second → NanosText f nano → ZoneText z ahead →
      ZonedText (y ++ '-' :: (m ++ '-' :: (d ++ 'T' :: (h ++ ':' :: (n ++ ':' :: (s ++ '.' :: (f ++ z)))))))
        ⟨year, month, day, hour, minute, second, nano⟩ ahead

variable {text : List Char} {ahead : Int} {time : CivilTime} {t : Instant}

theorem nanosOf?_eq_some_iff {nano : Nat} : nanosOf? text = some nano ↔ NanosText text nano := by
  have padded (digits : IsDigits text) : IsDigits ((text ++ List.replicate 9 '0').take 9) := by
    refine ⟨by simp, fun c member => ?_⟩
    rcases List.mem_append.mp (List.mem_of_mem_take member) with first | zero
    · exact digits.digit c first
    · rw [List.eq_of_mem_replicate zero]
      decide
  simp only [nanosOf?, Option.bind_eq_some_iff, naturalOf?_eq_some_iff]
  constructor
  · rintro ⟨_, ⟨digits, _⟩, _, value⟩
    exact ⟨digits, value⟩
  · rintro ⟨digits, value⟩
    exact ⟨_, ⟨digits, rfl⟩, padded digits, value⟩

theorem zoneText_of_zone? : zone? text = some ahead → ZoneText text ahead := by
  fun_cases zone? text with
  | case1 =>
    rintro ⟨⟩
    exact .universal
  | case2 sign h h' m m' =>
    simp only [Option.bind_eq_bind, Option.bind_eq_some_iff]
    rintro ⟨hour, hourRead, minute, minuteRead, shown⟩
    have hours : Numeral [2] [h, h'] hour := .of_read (by simp) hourRead
    have minutes : Numeral [2] [m, m'] minute := .of_read (by simp) minuteRead
    split at shown
    · exact nomatch shown
    rename_i fits
    obtain ⟨early, early'⟩ := not_or.mp fits
    split at shown
    · rename_i plus
      rw [plus, ← Option.some.inj shown]
      exact .east hours minutes (by omega) (by omega)
    split at shown
    · rename_i minus
      rw [minus, ← Option.some.inj shown]
      exact .west hours minutes (by omega) (by omega)
    · exact nomatch shown
  | case3 => exact nofun

theorem zone?_of_zoneText (written : ZoneText text ahead) : zone? text = some ahead := by
  cases written with
  | universal => rfl
  | east hours minutes early early' =>
    obtain ⟨h, h', rfl⟩ := hours.exists_pair
    obtain ⟨m, m', rfl⟩ := minutes.exists_pair
    simp only [List.cons_append, List.nil_append, zone?, hours.read, minutes.read, Option.bind_eq_bind, Option.bind_some]
    rw [if_neg (by omega), if_pos trivial]
  | west hours minutes early early' =>
    obtain ⟨h, h', rfl⟩ := hours.exists_pair
    obtain ⟨m, m', rfl⟩ := minutes.exists_pair
    simp only [List.cons_append, List.nil_append, zone?, hours.read, minutes.read, Option.bind_eq_bind, Option.bind_some]
    rw [if_neg (by omega), if_neg (by decide), if_pos trivial]

theorem ZoneText.stop (written : ZoneText text ahead) : ∀ c ∈ text.head?, isAsciiDigit c = false := by
  have zone : isAsciiDigit 'Z' = false ∧ isAsciiDigit '+' = false ∧ isAsciiDigit '-' = false := by decide
  cases written <;> simp [zone]

theorem zonedText_of_ofZoned? :
    ofZoned? text = some t → ∃ time ahead, ZonedText text time ahead ∧ time.instant? ahead = some t := by
  fun_cases ofZoned? text with
  | case1 =>
    simp only [Option.bind_eq_bind, Option.bind_eq_some_iff]
    rintro ⟨year, yearRead, month, monthRead, day, dayRead, hour, hourRead, minute, minuteRead, second, secondRead,
      nano, nanoRead, ahead, zoneRead, shown⟩
    refine ⟨_, ahead, ?_, shown⟩
    have written := ZonedText.mk (.of_read (by simp) yearRead) (.of_read (by simp) monthRead)
      (.of_read (by simp) dayRead) (.of_read (by simp) hourRead) (.of_read (by simp) minuteRead)
      (.of_read (by simp) secondRead) (nanosOf?_eq_some_iff.mp nanoRead) (zoneText_of_zone? zoneRead)
    rwa [List.takeWhile_append_dropWhile] at written
  | case2 => exact nofun

theorem ofZoned?_of_zonedText (written : ZonedText text time ahead) : ofZoned? text = time.instant? ahead := by
  obtain ⟨year, month, day, hour, minute, second, nano, zone⟩ := written
  obtain ⟨y, y', y'', y''', rfl⟩ := year.exists_four
  obtain ⟨m, m', rfl⟩ := month.exists_pair
  obtain ⟨d, d', rfl⟩ := day.exists_pair
  obtain ⟨h, h', rfl⟩ := hour.exists_pair
  obtain ⟨n, n', rfl⟩ := minute.exists_pair
  obtain ⟨s, s', rfl⟩ := second.exists_pair
  obtain ⟨taken, dropped⟩ := takeWhile_run
    (fun c member => isAsciiDigit_of_isDigit (nano.digits.digit c member)) zone.stop
  simp only [List.cons_append, List.nil_append, ofZoned?, year.read, month.read, day.read, hour.read, minute.read,
    second.read, taken, dropped, nanosOf?_eq_some_iff.mpr nano, zone?_of_zoneText zone, Option.bind_eq_bind,
    Option.bind_some]

/-- A zoned date is read as the instant at which the clocks of its zone show it. -/
theorem ofZoned?_eq_some_iff :
    ofZoned? text = some t ↔ ∃ time ahead, ZonedText text time ahead ∧ time.instant? ahead = some t := by
  constructor
  · exact zonedText_of_ofZoned?
  · rintro ⟨time, ahead, written, shown⟩
    rw [ofZoned?_of_zonedText written, shown]

/-! The form, with digits of every script. -/

/-- Two digits with a bound on the first. -/
def IsPair (highest : Char) (text : List Char) : Prop :=
  ∃ a b, text = [a, b] ∧ '0' ≤ a ∧ a ≤ highest ∧ isDecimalDigit b = true

inductive IsoZone : List Char → Prop
  | universal : IsoZone ['Z']
  | offset {sign : Char} {h m : List Char} : sign = '+' ∨ sign = '-' → IsPair '2' h → IsPair '5' m →
      IsoZone (sign :: (h ++ ':' :: m))

/-- A date and a time of day with a fraction of the second and a zone. The first digits of the months, days, hours,
minutes and seconds are bounded, but no calendar is asked. -/
inductive IsoForm : List Char → Prop
  | mk {y m d h n s f z : List Char} :
      y.length = 4 → (∀ c ∈ y, isDecimalDigit c = true) → IsPair '1' m → IsPair '3' d →
      IsPair '2' h → IsPair '5' n → IsPair '5' s → f ≠ [] → (∀ c ∈ f, isDecimalDigit c = true) → IsoZone z →
      IsoForm (y ++ '-' :: (m ++ '-' :: (d ++ 'T' :: (h ++ ':' :: (n ++ ':' :: (s ++ '.' :: (f ++ z)))))))

theorem isPair_of_lt {highest : Char} {n : Nat} (numeral : Numeral [2] text n) (bound : n < 10 * (highest.toNat - 47)) :
    IsPair highest text := by
  obtain ⟨a, b, rfl⟩ := numeral.exists_pair
  have digit := toNat_of_isDigit (numeral.digits.digit a (by simp))
  have value : 10 * (10 * 0 + (a.toNat - 48)) + (b.toNat - 48) = n := by
    have value := numeral.value
    rwa [Nat.ofDigitChars_cons, Nat.ofDigitChars_cons, Nat.ofDigitChars_nil] at value
  refine ⟨a, b, rfl, ?_, ?_, numeral.isDecimalDigit b (by simp)⟩
  · rw [Char.le_def, UInt32.le_iff_toNat_le]
    exact digit.1
  · have high : a.toNat ≤ highest.toNat := by omega
    rw [Char.le_def, UInt32.le_iff_toNat_le]
    exact high

theorem ZoneText.isoZone (written : ZoneText text ahead) : IsoZone text := by
  cases written with
  | universal => exact .universal
  | east hours minutes early early' =>
    exact .offset (.inl rfl) (isPair_of_lt hours (by simp; omega)) (isPair_of_lt minutes early')
  | west hours minutes early early' =>
    exact .offset (.inr rfl) (isPair_of_lt hours (by simp; omega)) (isPair_of_lt minutes early')

theorem ZonedText.isoForm (written : ZonedText text time ahead) (valid : time.IsValid) : IsoForm text := by
  obtain ⟨year, month, day, hour, minute, second, nano, zone⟩ := written
  obtain ⟨⟨_, months, _, days⟩, hours, minutes, seconds, _⟩ := valid
  have bound := days.trans (Date.daysInMonth_le _ _)
  refine .mk year.length_eq year.isDecimalDigit (isPair_of_lt month ?_) (isPair_of_lt day ?_)
    (isPair_of_lt hour ?_) (isPair_of_lt minute minutes) (isPair_of_lt second seconds) nano.digits.nonempty
    nano.digits.isDecimalDigit zone.isoZone
  · exact Nat.lt_of_le_of_lt months (by decide)
  · exact Nat.lt_of_le_of_lt bound (by decide)
  · exact Nat.lt_of_lt_of_le hours (by decide)

theorem isoForm_of_ofZoned? (read : ofZoned? text = some t) : IsoForm text := by
  obtain ⟨time, ahead, written, shown⟩ := zonedText_of_ofZoned? read
  exact written.isoForm (CivilTime.instant?_eq_some_iff.mp shown).1

theorem ofPlain?_of_isoForm (form : IsoForm text) : ofPlain? text = none := by
  have pair {highest : Char} {text : List Char} (digits : IsPair highest text) (bound : highest ≤ '9') :
      ∀ c ∈ text, isDecimalDigit c = true := by
    obtain ⟨a, b, rfl, low, high, second⟩ := digits
    have first : isDecimalDigit a = true := by
      refine isDecimalDigit_of_isDigit ?_
      simpa [Char.isDigit, Char.le_def] using And.intro low (Char.le_trans high bound)
    simp [first, second]
  obtain ⟨_, year, month, day, _⟩ := form
  exact ofPlain?_of_no_blank year (pair month (by decide)) (pair day (by decide))

/-! The two grammars exclude each other. -/

theorem parse?_of_not_isoForm {text : String} (other : ¬ IsoForm text.toList) : parse? text = ofPlain? text.toList := by
  have unzoned : ofZoned? text.toList = none := by
    rw [Option.eq_none_iff_forall_ne_some]
    exact fun t read => other (isoForm_of_ofZoned? read)
  rw [parse?, unzoned]

theorem parse?_of_isoForm {text : String} (form : IsoForm text.toList) : parse? text = ofZoned? text.toList := by
  rw [parse?, ofPlain?_of_isoForm form]
  cases ofZoned? text.toList <;> rfl

/-- An instant is read from a plain date that writes it in universal time, or from a zoned one. -/
theorem parse?_eq_some_iff {text : String} :
    parse? text = some t ↔ PlainText ReadSeconds text.toList t.civil ∨
      ∃ time ahead, ZonedText text.toList time ahead ∧ time.instant? ahead = some t := by
  rw [← ofPlain?_eq_some_iff, ← ofZoned?_eq_some_iff]
  by_cases form : IsoForm text.toList
  · rw [parse?_of_isoForm form, ofPlain?_of_isoForm form]
    simp
  · rw [parse?_of_not_isoForm form]
    exact ⟨.inl, fun read => read.resolve_right fun zoned => form (isoForm_of_ofZoned? zoned)⟩

end Instant
end Tenancy
