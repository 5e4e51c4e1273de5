import Tenancy.Proofs.Calendar.Zoned

/-! The texts that are read and are not in the ISO 8601 form. They are the plain dates of the calendar, and each is
read as the time that it writes, but for seconds in another script, which are dropped. -/
namespace Tenancy.Instant

variable {Seconds : List Char → Nat → Prop} {text : List Char} {t : Instant}

/-- What is read of a text is the time that it writes, with some reading of the seconds, and only valid times are. -/
structure ReadsExactly (Seconds : List Char → Nat → Prop) (text : String) : Prop where
  accepted_iff : (∃ t, parse? text = some t) ↔ ∃ time, PlainText Seconds text.toList time ∧ time.IsValid
  read_iff : ∀ t, parse? text = some t ↔ PlainText Seconds text.toList t.civil

/-- The seconds of plain dates in ASCII are read as they are written. Those in another script are taken for none, and
the date is accepted all the same. -/
theorem plain_text_read_iff {text : String} (other : ¬ IsoForm text.toList) :
    ReadsExactly ReadSeconds text ∧
      (ReadsExactly (Numeral [2]) text ↔
        ∀ time, PlainText ReadSeconds text.toList time → time.IsValid → IsAscii text.toList) := by
  have same := parse?_of_not_isoForm other
  have reads : ReadsExactly ReadSeconds text := by
    constructor
    · rw [same]
      exact exists_ofPlain?_iff
    · intro t
      rw [same]
      exact ofPlain?_eq_some_iff
  refine ⟨reads, fun exact time written valid => ?_, fun ascii => ?_⟩
  · obtain ⟨t, read⟩ := reads.accepted_iff.mpr ⟨time, written, valid⟩
    exact (plainText_numeral_iff.mp ((exact.read_iff t).mp read)).2
  · have numeral {time : CivilTime} (valid : time.IsValid) :
        PlainText ReadSeconds text.toList time ↔ PlainText (Numeral [2]) text.toList time := by
      rw [plainText_numeral_iff]
      exact ⟨fun written => ⟨written, ascii time written valid⟩, And.left⟩
    constructor
    · rw [reads.accepted_iff]
      exact exists_congr fun time => and_congr_left numeral
    · intro t
      rw [reads.read_iff]
      constructor
      · exact fun written => (numeral written.isValid_civil).mp written
      · exact fun written => (numeral written.isValid_civil).mpr written

theorem IsoForm.getElem?_ten (form : IsoForm text) : text[10]? = some 'T' := by
  obtain ⟨wide, _, ⟨_, _, rfl, _⟩, ⟨_, _, rfl, _⟩, _⟩ := form
  rw [List.getElem?_append_right (by omega), wide]
  rfl

instance : Decidable (IsAscii text) := List.decidableBAll _ text

theorem plain_text_read_of_leapDay :
    ¬ IsoForm "2/29/00 5:07:09.25".toList ∧ ReadsExactly (Numeral [2]) "2/29/00 5:07:09.25" ∧
      (parse? "2/29/00 5:07:09.25").map civil = some ⟨2000, 2, 29, 5, 7, 9, 250000000⟩ := by
  have other : ¬ IsoForm "2/29/00 5:07:09.25".toList := by
    intro form
    exact absurd form.getElem?_ten (by decide)
  have ascii : IsAscii "2/29/00 5:07:09.25".toList := by decide +kernel
  exact ⟨other, (plain_text_read_iff other).2.mpr fun _ _ _ => ascii, by decide +kernel⟩

/-- The Arabic digits three and four for the seconds. -/
theorem foreign_seconds_dropped :
    ¬ IsoForm "2012-10-04 11:11:\u0663\u0664".toList ∧
      (parse? "2012-10-04 11:11:\u0663\u0664").map civil = some ⟨2012, 10, 4, 11, 11, 0, 0⟩ ∧
      ¬ ReadsExactly (Numeral [2]) "2012-10-04 11:11:\u0663\u0664" := by
  have other : ¬ IsoForm "2012-10-04 11:11:\u0663\u0664".toList := by
    intro form
    exact absurd form.getElem?_ten (by decide)
  have read : (parse? "2012-10-04 11:11:\u0663\u0664").map civil = some ⟨2012, 10, 4, 11, 11, 0, 0⟩ := by
    decide +kernel
  refine ⟨other, read, fun exact => ?_⟩
  obtain ⟨t, taken, -⟩ := Option.map_eq_some_iff.mp read
  have ascii := (plainText_numeral_iff.mp ((exact.read_iff t).mp taken)).2
  exact absurd ascii (by decide +kernel)

end Tenancy.Instant
