import DrawingCode.Proofs.Double.Printed

/-! # Numbers are read back

The text of a double denotes the double again, up to the patterns that are no number. The text of a
finite double is a literal that rounds to the double, and the words for the others are read as such.
-/

namespace DrawingCode

namespace Decimal

open Double

variable {digits : List Char}

private theorem plainText_plain (numeral : Digits digits) (place : Int) :
    ∀ c ∈ plainText digits place, c ∈ numeralChars := by
  have point : '.' ∈ numeralChars := by decide
  have zero : '0' ∈ numeralChars := by decide
  rw [plainText]
  split_ifs
  · exact List.forall_mem_cons.mpr ⟨zero, List.forall_mem_cons.mpr
      ⟨point, ((digits_replicate_zero _).append numeral).plain⟩⟩
  · exact List.forall_mem_append.mpr ⟨(numeral.append (digits_replicate_zero _)).plain,
      List.forall_iff_forall_mem.mp (by decide)⟩
  · exact List.forall_mem_append.mpr ⟨(numeral.take _).plain,
      List.forall_mem_cons.mpr ⟨point, (numeral.drop _).plain⟩⟩

private theorem scaledText_plain (numeral : Digits digits) (format : NumberFormat) (place : Int) :
    ∀ c ∈ scaledText format digits place, c ∈ numeralChars := by
  have sign : (if place < 0 then '-' else '+') ∈ numeralChars := by split_ifs <;> decide
  have exponent : Digits (exponentText format.exponentDigits place.natAbs) :=
    (digits_replicate_zero _).append (digits_toDigits _)
  have fraction : ∀ c ∈ if digits.length ≤ 1 then [] else '.' :: digits.drop 1,
      c ∈ numeralChars := by
    split_ifs
    · exact List.forall_mem_nil _
    · exact List.forall_mem_cons.mpr ⟨by decide, (numeral.drop 1).plain⟩
  rw [scaledText, List.append_assoc]
  exact List.forall_mem_append.mpr ⟨(numeral.take 1).plain, List.forall_mem_append.mpr ⟨fraction,
    List.forall_mem_cons.mpr ⟨by decide, List.forall_mem_cons.mpr ⟨sign, exponent.plain⟩⟩⟩⟩

private theorem text_plain (d : Decimal) (format : NumberFormat) :
    ∀ c ∈ d.text format, c ∈ numeralChars := by
  rw [text]
  split_ifs
  · exact plainText_plain (digits_toDigits _) _
  · exact scaledText_plain (digits_toDigits _) format _

end Decimal

namespace Double

private theorem magnitudeText_plain (rank : Nat) :
    ∀ c ∈ magnitudeText .code rank, c ∈ numeralChars := by
  rw [magnitudeText]
  split_ifs
  · exact List.forall_iff_forall_mem.mp (by decide)
  · exact List.forall_iff_forall_mem.mp (by decide)
  · exact (shortest rank).text_plain .code

theorem text_of_isNaN {d : Double} (none : d.isNaN) : d.text = "nan" := by
  rw [text, textIn, if_pos none]
  rfl

theorem canonical_of_number {d : Double} (number : d.rank ≤ infinityRank) : d.canonical = d := by
  have notNaN : d.isNaN = false := decide_eq_false (Nat.not_lt.mpr number)
  rw [canonical, notNaN, if_neg Bool.false_ne_true]

/-- The text of a double has no characters but those of numerals. -/
theorem mem_numeralChars_of_mem_text (d : Double) : ∀ c ∈ d.text.toList, c ∈ numeralChars := by
  by_cases number : d.rank ≤ infinityRank
  · rw [toList_text_of_number number]
    refine List.forall_mem_append.mpr ⟨?_, magnitudeText_plain d.rank⟩
    split_ifs <;> exact List.forall_iff_forall_mem.mp (by decide)
  · rw [text_of_isNaN (decide_eq_true (Nat.not_le.mp number))]
    exact List.forall_iff_forall_mem.mp (by decide)

/-- The text of a finite double is read as the double. -/
theorem read?_text_of_finite {d : Double} (finite : d.isFinite) : read? d.text = some d := by
  obtain ⟨l, text, sign, within, -⟩ := exists_literal_text finite
  have finite : d.rank < infinityRank := of_decide_eq_true finite
  have rank : nearestRankOfDecimal l.decimal = d.rank := by
    rw [nearestRankOfDecimal_eq_iff finite, roundsTo_iff_within_value, l.value_decimal]
    exact within
  rw [text, l.read?_text, sign, ofDecimal, rank, ofRank]
  simp only [Nat.min_eq_left finite.le]

/-- The text of a double is read as the double, all patterns that are no number being one. -/
theorem read?_text (d : Double) : read? d.text = some d.canonical := by
  rcases Nat.lt_trichotomy d.rank infinityRank with finite | infinite | none
  · rw [canonical_of_number finite.le, read?_text_of_finite (decide_eq_true finite)]
  · rw [canonical_of_number infinite.le, read?, toList_text_of_number infinite.le]
    obtain ⟨negative, rank, bound⟩ := d
    cases infinite
    cases negative
    · rfl
    · rfl
  · have isNaN : d.isNaN := decide_eq_true none
    rw [text_of_isNaN isNaN, canonical, if_pos isNaN]
    rfl

theorem text_canonical (d : Double) : d.canonical.text = d.text := by
  rw [canonical]
  split_ifs with isNaN
  · rw [text_of_isNaN isNaN]
    rfl
  · rfl

/-- Texts of doubles differ unless the doubles are the same, or neither is a number. -/
theorem text_eq_text_iff (a b : Double) : a.text = b.text ↔ a.canonical = b.canonical := by
  constructor
  · intro same
    have read := (read?_text a).symm.trans ((congrArg read? same).trans (read?_text b))
    exact Option.some.inj read
  · intro same
    rw [← text_canonical a, same, text_canonical b]

end Double

end DrawingCode
