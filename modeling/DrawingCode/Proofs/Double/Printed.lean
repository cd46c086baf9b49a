import DrawingCode.Double.Written
import DrawingCode.Proofs.Double.Literal
import DrawingCode.Proofs.Double.Minimal
import Mathlib.Data.List.DropRight

/-! # Texts of doubles are literals

The text of a finite double is a decimal literal that denotes its shortest decimal. A decimal that
is written out may get zeros in front of its digits or behind them, and one with an exponent may get
zeros in front of the exponent; none of them changes what the literal denotes or how many digits
of it are significant.
-/

namespace DrawingCode

namespace DigitRow

variable {text : List Char}

/-- Digits in one group, or in none if there are no digits. -/
def ofDigits (text : List Char) (digits : Double.Digits text) : DigitRow where
  groups := if text = [] then [] else [text]
  filled := by
    intro group member
    split_ifs at member with empty
    · cases member
    · exact List.mem_singleton.mp member ▸ empty
  digits := by
    intro group member
    split_ifs at member
    · cases member
    · exact List.mem_singleton.mp member ▸ digits

@[simp] theorem plain_ofDigits (digits : Double.Digits text) :
    (ofDigits text digits).plain = text := by
  rw [plain, ofDigits]
  split_ifs with empty
  · exact empty.symm
  · exact List.append_nil text

@[simp] theorem text_ofDigits (digits : Double.Digits text) :
    (ofDigits text digits).text = text := by
  rw [DigitRow.text, ofDigits]
  split_ifs with empty
  · exact empty.symm
  · exact List.intercalate_singleton

theorem groups_ofDigits_ne_nil (digits : Double.Digits text) (nonempty : text ≠ []) :
    (ofDigits text digits).groups ≠ [] := by
  simp only [ofDigits, if_neg nonempty]
  exact List.cons_ne_nil _ _

end DigitRow

/-- A sign is written for negative numbers. -/
theorem WrittenSign.exists_of_negative (negative : Bool) : ∃ sign : WrittenSign,
    sign.negative = negative ∧ sign.text = if negative then ['-'] else [] := by
  cases negative
  · exact ⟨none, rfl, rfl⟩
  · exact ⟨minus, rfl, rfl⟩

namespace Literal

/-- How many digits there are from the first to the last one that is not zero, those of the exponent
not counted. -/
def significantDigits (l : Literal) : Nat :=
  (((l.whole.plain ++ l.fractionDigits).dropWhile (· == '0')).rdropWhile (· == '0')).length

/-- A literal has certain digits, but for zeros before and behind them, and the first of these
digits stands at a place. -/
def Shows (l : Literal) (digits : List Char) (place : Int) : Prop :=
  ∃ before behind : Nat,
    l.whole.plain ++ l.fractionDigits =
      List.replicate before '0' ++ digits ++ List.replicate behind '0' ∧
    l.power - l.fractionDigits.length + behind = place + 1 - digits.length

variable {l : Literal} {digits : List Char} {place : Int}

/-- The zeros around the digits do not count. -/
theorem Shows.size (shows : l.Shows digits place) :
    l.size = Decimal.value ⟨Nat.ofDigitChars 10 digits 0, place + 1 - digits.length⟩ := by
  obtain ⟨before, behind, padded, power⟩ := shows
  have number : Nat.ofDigitChars 10 (l.whole.plain ++ l.fractionDigits) 0 =
      Nat.ofDigitChars 10 digits 0 * 10 ^ behind := by
    rw [padded, Nat.ofDigitChars_append, Nat.ofDigitChars_append, Nat.ofDigitChars_replicate_zero,
      Nat.ofDigitChars_replicate_zero, Nat.mul_zero, Nat.mul_comm]
  rw [← value_decimal, decimal, number, Decimal.value_shift, power]

private theorem dropWhile_zeros (count : Nat) {rest : List Char} (solid : rest.head? ≠ some '0') :
    (List.replicate count '0' ++ rest).dropWhile (· == '0') = rest := by
  have zeros : ∀ c ∈ List.replicate count '0', (c == '0') = true := by
    intro c member
    rw [List.eq_of_mem_replicate member]
    rfl
  rw [List.dropWhile_append_of_pos zeros]
  cases rest with
  | nil => rfl
  | cons c more =>
    have other : c ≠ '0' := by simpa using solid
    exact List.dropWhile_cons_of_neg (by simpa using other)

theorem Shows.significantDigits (shows : l.Shows digits place) (nonempty : digits ≠ [])
    (first : digits.head? ≠ some '0') (last : digits.getLast? ≠ some '0') :
    l.significantDigits = digits.length := by
  obtain ⟨before, behind, padded, -⟩ := shows
  have left : (digits ++ List.replicate behind '0').head? ≠ some '0' := by
    rw [List.head?_append_of_ne_nil _ nonempty]
    exact first
  have right : digits.reverse.head? ≠ some '0' := by
    rw [List.head?_reverse]
    exact last
  rw [Literal.significantDigits, padded, List.append_assoc, dropWhile_zeros before left,
    List.rdropWhile, List.reverse_append, List.reverse_replicate, dropWhile_zeros behind right,
    List.reverse_reverse]

open Double in
/-- Digits around a point are a literal. -/
theorem exists_point (sign : WrittenSign) {whole fraction : List Char}
    (wholeDigits : Digits whole) (fractionDigits : Digits fraction) (filled : whole ≠ []) :
    ∃ l : Literal, l.sign = sign ∧ l.unsigned DigitRow.text = whole ++ '.' :: fraction ∧
      l.whole.plain = whole ∧ l.fractionDigits = fraction ∧ l.power = 0 := by
  refine ⟨⟨sign, .ofDigits whole wholeDigits, some (.ofDigits fraction fractionDigits), none,
    .inl (DigitRow.groups_ofDigits_ne_nil wholeDigits filled)⟩, rfl, ?_, ?_, ?_, rfl⟩
  · simp [Literal.unsigned, Literal.behindWhole, Literal.ending]
  · exact DigitRow.plain_ofDigits wholeDigits
  · exact DigitRow.plain_ofDigits fractionDigits

end Literal

theorem digitChar_ne_zero {n : Nat} (positive : 0 < n) (small : n < 10) : n.digitChar ≠ '0' := by
  have all : ∀ n < 10, 0 < n → n.digitChar ≠ '0' := by decide
  exact all n small positive

/-- The digits of a number above zero do not begin with a zero. -/
theorem head?_toDigits {n : Nat} (positive : 0 < n) : (Nat.toDigits 10 n).head? ≠ some '0' := by
  induction n using Nat.strong_induction_on with
  | _ n ih =>
    rcases Nat.lt_or_ge n 10 with small | large
    · rw [Nat.toDigits_of_lt_base small]
      simpa using digitChar_ne_zero positive small
    · rw [Nat.toDigits_of_base_le (by decide) large, List.head?_append_of_ne_nil _ Nat.toDigits_ne_nil]
      exact ih (n / 10) (by omega) (by omega)

/-- The last digit of a number is the rest that division by ten leaves. -/
theorem getLast?_toDigits (n : Nat) :
    (Nat.toDigits 10 n).getLast? = some (n % 10).digitChar := by
  rcases Nat.lt_or_ge n 10 with small | large
  · rw [Nat.toDigits_of_lt_base small, Nat.mod_eq_of_lt small]
    rfl
  · rw [Nat.toDigits_of_base_le (by decide) large, List.getLast?_concat]

namespace Decimal

open Double

section Forms

variable {digits : List Char}

/-- A decimal that is written out is a literal that shows its digits. There are zeros between the
point and the digits or behind the digits, unless the point stands among them. -/
theorem exists_literal_plainText (sign : WrittenSign) (numeral : Digits digits)
    (nonempty : digits ≠ []) (place : Int) :
    ∃ l : Literal, l.sign = sign ∧ l.unsigned DigitRow.text = plainText digits place ∧
      l.Shows digits place := by
  have length : 0 < digits.length := List.length_pos_iff.mpr nonempty
  rw [plainText]
  split_ifs with small short
  · have zeros := digits_replicate_zero (-place - 1).toNat
    obtain ⟨l, signed, text, whole, fraction, power⟩ :=
      Literal.exists_point sign (digits_replicate_zero 1) (zeros.append numeral) (by simp)
    refine ⟨l, signed, text, 1 + (-place - 1).toNat, 0, ?_, ?_⟩
    · rw [whole, fraction, List.replicate_add]
      simp
    · rw [fraction, power, List.length_append, List.length_replicate]
      omega
  · have zeros := digits_replicate_zero (place.toNat + 1 - digits.length)
    obtain ⟨l, signed, text, whole, fraction, power⟩ :=
      Literal.exists_point sign (numeral.append zeros) (digits_replicate_zero 1) (by simp [nonempty])
    refine ⟨l, signed, text, 0, place.toNat + 1 - digits.length + 1, ?_, ?_⟩
    · rw [whole, fraction, List.replicate_add]
      simp
    · rw [fraction, power, List.length_replicate]
      omega
  · obtain ⟨l, signed, text, whole, fraction, power⟩ :=
      Literal.exists_point sign (numeral.take (place.toNat + 1)) (numeral.drop (place.toNat + 1))
        (by simp [nonempty])
    refine ⟨l, signed, text, 0, 0, ?_, ?_⟩
    · rw [whole, fraction]
      simp
    · rw [fraction, power, List.length_drop]
      omega

/-- An exponent is written with its sign, and zeros in front of it do not change it. -/
theorem exists_writtenExponent (width : Nat) (place : Int) : ∃ e : WrittenExponent,
    e.mark :: (e.sign.text ++ e.row.text) =
      'e' :: (if place < 0 then '-' else '+') :: exponentText width place.natAbs ∧
    e.number = place := by
  have digits : Digits (exponentText width place.natAbs) :=
    (digits_replicate_zero _).append (digits_toDigits _)
  have filled : exponentText width place.natAbs ≠ [] := by
    simp [exponentText, Nat.toDigits_ne_nil]
  have size : Nat.ofDigitChars 10 (exponentText width place.natAbs) 0 = place.natAbs := by
    simp [exponentText, Nat.ofDigitChars_append]
  have row := DigitRow.groups_ofDigits_ne_nil digits filled
  by_cases below : place < 0
  · refine ⟨⟨'e', .inl rfl, .minus, .ofDigits _ digits, row⟩, ?_, ?_⟩
    · simp [WrittenSign.text, below]
    · simp only [WrittenExponent.number, DigitRow.number, DigitRow.plain_ofDigits, size,
        WrittenSign.negative, if_true]
      omega
  · refine ⟨⟨'e', .inl rfl, .plus, .ofDigits _ digits, row⟩, ?_, ?_⟩
    · simp [WrittenSign.text, below]
    · simp only [WrittenExponent.number, DigitRow.number, DigitRow.plain_ofDigits, size,
        WrittenSign.negative, Bool.false_eq_true, if_false]
      omega

/-- A decimal with an exponent is a literal that shows its digits. -/
theorem exists_literal_scaledText (sign : WrittenSign) (format : NumberFormat)
    (numeral : Digits digits) (nonempty : digits ≠ []) (place : Int) :
    ∃ l : Literal, l.sign = sign ∧ l.unsigned DigitRow.text = scaledText format digits place ∧
      l.Shows digits place := by
  have length : 0 < digits.length := List.length_pos_iff.mpr nonempty
  obtain ⟨e, text, power⟩ := exists_writtenExponent format.exponentDigits place
  have first : (DigitRow.ofDigits _ (numeral.take 1)).groups ≠ [] :=
    DigitRow.groups_ofDigits_ne_nil _ (by simp [nonempty])
  rw [scaledText, ← text]
  by_cases single : digits.length ≤ 1
  · rw [if_pos single, List.append_nil]
    refine ⟨⟨sign, .ofDigits _ (numeral.take 1), none, some e, .inl first⟩, rfl, ?_, 0, 0, ?_, ?_⟩
    · simp [Literal.unsigned, Literal.behindWhole, Literal.ending]
    · simp [Literal.fractionDigits, List.take_of_length_le single]
    · simp only [Literal.fractionDigits, Literal.power, power, Option.elim_none, Option.elim_some,
        List.length_nil]
      omega
  · rw [if_neg single]
    refine ⟨⟨sign, .ofDigits _ (numeral.take 1), some (.ofDigits _ (numeral.drop 1)), some e,
      .inl first⟩, rfl, ?_, 0, 0, ?_, ?_⟩
    · simp [Literal.unsigned, Literal.behindWhole, Literal.ending]
    · simp only [Literal.fractionDigits, DigitRow.plain_ofDigits, Option.elim_some,
        List.take_append_drop, List.replicate_zero, List.nil_append, List.append_nil]
    · simp only [Literal.fractionDigits, Literal.power, power, Option.elim_some,
        DigitRow.plain_ofDigits, List.length_drop]
      omega

end Forms

/-- The text of a decimal without zeros at its end is a literal of the number, and all of its digits
are significant. -/
theorem exists_literal_text (sign : WrittenSign) (format : NumberFormat) {d : Decimal}
    (last : d.digits % 10 ≠ 0) :
    ∃ l : Literal, l.sign = sign ∧ l.unsigned DigitRow.text = d.text format ∧ l.size = d.value ∧
      l.significantDigits = (Nat.toDigits 10 d.digits).length := by
  obtain ⟨digits, exponent⟩ := d
  dsimp only at last ⊢
  obtain ⟨l, signed, written, shows⟩ : ∃ l : Literal, l.sign = sign ∧
      l.unsigned DigitRow.text = text format ⟨digits, exponent⟩ ∧
      l.Shows (Nat.toDigits 10 digits) (exponent + (Nat.toDigits 10 digits).length - 1) := by
    rw [text]
    split_ifs
    · exact exists_literal_plainText sign (digits_toDigits _) Nat.toDigits_ne_nil _
    · exact exists_literal_scaledText sign format (digits_toDigits _) Nat.toDigits_ne_nil _
  refine ⟨l, signed, written, ?_, ?_⟩
  · rw [shows.size, Nat.ofDigitChars_ten_toDigits, sub_add_cancel, add_sub_cancel_right]
  · apply shows.significantDigits Nat.toDigits_ne_nil
    · exact head?_toDigits (by omega)
    · rw [getLast?_toDigits, ne_eq, Option.some_inj]
      exact digitChar_ne_zero (by omega) (Nat.mod_lt _ (by decide))

end Decimal

namespace Double

variable {d : Double}

theorem toList_text_of_number (number : d.rank ≤ infinityRank) :
    d.text.toList = (if d.negative then ['-'] else []) ++ magnitudeText .code d.rank := by
  have notNaN : d.isNaN = false := decide_eq_false (Nat.not_lt.mpr number)
  rw [text, textIn, notNaN, if_neg Bool.false_ne_true, String.toList_ofList]

/-- The text of a finite magnitude is what follows the sign of a literal that rounds to it. -/
theorem exists_literal_magnitudeText (sign : WrittenSign) {rank : Nat}
    (finite : rank < infinityRank) :
    ∃ l : Literal, l.sign = sign ∧ l.unsigned DigitRow.text = magnitudeText .code rank ∧
      Within rank l.size ∧ (rank = 0 → l.size = 0) ∧
      (rank ≠ 0 → l.size = (shortest rank).value ∧
        l.significantDigits = (Nat.toDigits 10 (shortest rank).digits).length) := by
  rcases Nat.eq_zero_or_pos rank with zero | positive
  · obtain ⟨l, signed, text, whole, fraction, power⟩ :=
      Literal.exists_point sign (digits_replicate_zero 1) (digits_replicate_zero 1) (by simp)
    have nothing : l.size = 0 := by
      rw [Literal.size, DigitRow.number, whole, fraction, Nat.ofDigitChars_replicate_zero]
      simp
    refine ⟨l, signed, ?_, ?_, fun _ => nothing, fun above => absurd zero above⟩
    · rw [text, zero]
      rfl
    · rw [zero, nothing, ← magnitude_zero]
      exact within_magnitude 0
  · obtain ⟨l, signed, text, size, digits⟩ := Decimal.exists_literal_text sign .code
      (digits_shortest_mod positive finite)
    refine ⟨l, signed, ?_, ?_, fun zero => absurd zero positive.ne', fun _ => ⟨size, digits⟩⟩
    · rw [text, magnitudeText, if_neg positive.ne', if_neg finite.ne]
    · rw [size]
      exact roundsTo_iff_within_value.mp (shortest_roundsTo positive finite)

/-- The text of a finite double is a literal that rounds to it. -/
theorem exists_literal_text (finite : d.isFinite) :
    ∃ l : Literal, d.text = l.text ∧ l.sign.negative = d.negative ∧ Within d.rank l.size ∧
      (d.rank ≠ 0 → l.size = (shortest d.rank).value ∧
        l.significantDigits = (Nat.toDigits 10 (shortest d.rank).digits).length) := by
  have finite : d.rank < infinityRank := of_decide_eq_true finite
  obtain ⟨sign, negative, minus⟩ := WrittenSign.exists_of_negative d.negative
  obtain ⟨l, signed, text, within, -, exactly⟩ := exists_literal_magnitudeText sign finite
  refine ⟨l, ?_, signed ▸ negative, within, exactly⟩
  rw [← String.toList_inj, toList_text_of_number finite.le, Literal.text, String.toList_ofList,
    Literal.chars, signed, text, minus]

end Double

end DrawingCode
