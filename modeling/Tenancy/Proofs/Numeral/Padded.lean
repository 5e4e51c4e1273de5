import Mathlib.Data.List.Basic
import Tenancy.Numeral.Decimal
import Tenancy.Text.Basic

/-! Reading the digits that are written for naturals. Zeros before the digits say nothing, and zeros
after them are powers of ten. -/
namespace Tenancy

open scoped Powers

/-- Texts of ASCII digits, at least one. -/
structure IsDigits (text : List Char) : Prop where
  nonempty : text ≠ []
  digit : ∀ c ∈ text, c.isDigit = true

theorem toNat_of_isDigit {c : Char} (digit : c.isDigit = true) : 48 ≤ c.toNat ∧ c.toNat ≤ 57 := by
  simpa [Char.isDigit, UInt32.le_iff_toNat_le] using digit

theorem asciiDigit?_of_isDigit {c : Char} (digit : c.isDigit = true) :
    asciiDigit? c = some (c.toNat - '0'.toNat) := by
  have bounds : '0' ≤ c ∧ c ≤ '9' := by
    simpa [Char.le_def, UInt32.le_iff_toNat_le] using toNat_of_isDigit digit
  rw [asciiDigit?, if_pos bounds]

theorem isAsciiDigit_of_isDigit {c : Char} (digit : c.isDigit = true) : isAsciiDigit c = true := by
  rw [isAsciiDigit, asciiDigit?_of_isDigit digit]
  rfl

theorem isDecimalDigit_of_isDigit {c : Char} (digit : c.isDigit = true) : isDecimalDigit c = true := by
  obtain ⟨low, high⟩ := toNat_of_isDigit digit
  rw [isDecimalDigit, List.any_eq_true]
  refine ⟨0x0030, by decide, ?_⟩
  rw [Bool.and_eq_true, decide_eq_true_eq, decide_eq_true_eq]
  omega

theorem naturalOf?_of_digits {text : List Char} (digits : IsDigits text) :
    naturalOf? text = some (Nat.ofDigitChars 10 text 0) := by
  have folded (text : List Char) (all : ∀ c ∈ text, c.isDigit = true) (n : Nat) :
      text.foldlM (fun n d => (asciiDigit? d).map (10 * n + ·)) n = some (Nat.ofDigitChars 10 text n) := by
    induction text generalizing n with
    | nil => rfl
    | cons c text ih =>
      obtain ⟨first, rest⟩ := List.forall_mem_cons.mp all
      rw [List.foldlM_cons, asciiDigit?_of_isDigit first, Nat.ofDigitChars_cons]
      exact ih rest _
  cases text with
  | nil => exact absurd rfl digits.nonempty
  | cons c text => exact folded (c :: text) digits.digit 0

theorem isDigit_of_asciiDigit? {c : Char} {n : Nat} (read : asciiDigit? c = some n) : c.isDigit = true := by
  rw [asciiDigit?] at read
  split at read
  · rename_i bounds
    simpa [Char.isDigit, Char.le_def] using bounds
  · exact nomatch read

theorem isDigits_of_naturalOf? {text : List Char} {n : Nat} (read : naturalOf? text = some n) : IsDigits text := by
  have folded (text : List Char) (n m : Nat)
      (read : text.foldlM (fun n d => (asciiDigit? d).map (10 * n + ·)) n = some m) : ∀ c ∈ text, c.isDigit = true := by
    induction text generalizing n with
    | nil => exact List.forall_mem_nil _
    | cons c text ih =>
      rw [List.foldlM_cons, Option.bind_eq_bind, Option.bind_eq_some_iff] at read
      obtain ⟨first, mapped, rest⟩ := read
      obtain ⟨value, digit, _⟩ := Option.map_eq_some_iff.mp mapped
      exact List.forall_mem_cons.mpr ⟨isDigit_of_asciiDigit? digit, ih first rest⟩
  cases text with
  | nil => exact nomatch read
  | cons c text => exact ⟨List.cons_ne_nil _ _, folded _ _ _ read⟩

theorem naturalOf?_eq_some_iff {text : List Char} {n : Nat} :
    naturalOf? text = some n ↔ IsDigits text ∧ Nat.ofDigitChars 10 text 0 = n := by
  constructor
  · intro read
    have digits := isDigits_of_naturalOf? read
    rw [naturalOf?_of_digits digits] at read
    exact ⟨digits, Option.some.inj read⟩
  · rintro ⟨digits, rfl⟩
    exact naturalOf?_of_digits digits

/-- Digits are below the power of ten of their number, whatever digits stand before them. -/
theorem ofDigitChars_lt {text : List Char} (digit : ∀ c ∈ text, c.isDigit = true) (m : Nat) :
    Nat.ofDigitChars 10 text m < 10 ^ text.length * (m + 1) := by
  induction text generalizing m with
  | nil => simp
  | cons c text ih =>
    obtain ⟨first, rest⟩ := List.forall_mem_cons.mp digit
    have small := toNat_of_isDigit first
    have step : 10 * m + (c.toNat - '0'.toNat) + 1 ≤ 10 * (m + 1) := by
      change 10 * m + (c.toNat - 48) + 1 ≤ 10 * (m + 1)
      omega
    rw [Nat.ofDigitChars_cons, List.length_cons, Nat.pow_succ, Nat.mul_assoc]
    exact Nat.lt_of_lt_of_le (ih rest _) (Nat.mul_le_mul_left _ step)

/-! Digits behind zeros, and before them. -/

theorem isDigit_of_mem_zeros {n : Nat} {c : Char} (member : c ∈ List.replicate n '0') : c.isDigit = true := by
  rw [List.eq_of_mem_replicate member]
  decide

theorem isDigit_of_mem_decimalDigits {n : Nat} {c : Char} (member : c ∈ decimalDigits n) : c.isDigit = true :=
  Nat.isDigit_of_mem_toDigits (by decide) (by decide) member

theorem isDigits_decimalDigits (n : Nat) : IsDigits (decimalDigits n) :=
  ⟨Nat.toDigits_ne_nil, fun _ => isDigit_of_mem_decimalDigits⟩

theorem paddedText_toList (width n : Nat) :
    (paddedText width n).toList = List.replicate (width - (decimalDigits n).length) '0' ++ decimalDigits n := by
  rw [paddedText, String.toList_ofList]

theorem isDigits_paddedText (width n : Nat) : IsDigits (paddedText width n).toList where
  nonempty := by
    rw [paddedText_toList]
    exact List.append_ne_nil_of_right_ne_nil _ Nat.toDigits_ne_nil
  digit := by
    rw [paddedText_toList, List.forall_mem_append]
    exact ⟨fun _ => isDigit_of_mem_zeros, fun _ => isDigit_of_mem_decimalDigits⟩

theorem naturalOf?_paddedText (width n : Nat) : naturalOf? (paddedText width n).toList = some n := by
  rw [naturalOf?_of_digits (isDigits_paddedText width n), paddedText_toList, Nat.ofDigitChars_append,
    Nat.ofDigitChars_replicate_zero, Nat.mul_zero, decimalDigits, Nat.ofDigitChars_toDigits (by decide) (by decide)]

theorem length_paddedText {width n : Nat} (positive : 0 < width) (bound : n < 10 ^ width) :
    (paddedText width n).toList.length = width := by
  have short : (decimalDigits n).length ≤ width := (Nat.length_toDigits_le_iff (by decide) positive).mpr bound
  rw [paddedText_toList, List.length_append, List.length_replicate]
  omega

theorem le_length_paddedText (width n : Nat) : width ≤ (paddedText width n).toList.length := by
  rw [paddedText_toList, List.length_append, List.length_replicate]
  omega

theorem naturalOf?_append_zeros {text : List Char} {n : Nat} (digits : IsDigits text) (read : naturalOf? text = some n)
    (zeros : Nat) : naturalOf? (text ++ List.replicate zeros '0') = some (10 ^ zeros * n) := by
  have longer : IsDigits (text ++ List.replicate zeros '0') :=
    ⟨List.append_ne_nil_of_left_ne_nil digits.nonempty _,
      List.forall_mem_append.mpr ⟨digits.digit, fun _ => isDigit_of_mem_zeros⟩⟩
  rw [naturalOf?_of_digits digits] at read
  rw [naturalOf?_of_digits longer, Nat.ofDigitChars_append, Nat.ofDigitChars_replicate_zero, Option.some.inj read]

end Tenancy
