import DrawingCode.Proofs.Double.Integral
import DrawingCode.Proofs.Value.Numeral

/-! # What the numerals of numbers denote

An integer and the literal of a number stand for the double that is nearest to the number, and both
take the same numeral. The numeral of a double is the shortest decimal literal that the double is
nearest to, and among those that are as short it is one that is nearest to the double.
-/

namespace DrawingCode

namespace Literal

open Double

variable (l : Literal)

private theorem size_nonneg : 0 ≤ l.size := by
  rw [← value_decimal]
  exact l.decimal.value_nonneg

theorem abs_value : |l.value| = l.size := by
  rw [value, abs_signed, abs_of_nonneg l.size_nonneg]

theorem toList_toString (n : Int) : (toString n).toList =
    (if n < 0 then ['-'] else []) ++ Nat.toDigits 10 n.natAbs := by
  cases n with
  | ofNat size =>
    have written : toString (Int.ofNat size) = toString size := rfl
    have above : ¬ Int.ofNat size < 0 := Int.not_lt.mpr (Int.natCast_nonneg size)
    rw [written, Nat.toString_eq_ofList_toDigits, String.toList_ofList, if_neg above]
    rfl
  | negSucc size =>
    have written : toString (Int.negSucc size) = "-" ++ toString (size + 1) := rfl
    rw [written, Nat.toString_eq_ofList_toDigits, String.toList_append,
      if_pos (Int.negSucc_lt_zero size), @String.toList_ofList (Nat.toDigits 10 (size + 1))]
    rfl

/-- An integer is written as a literal that denotes it. -/
theorem exists_toString (n : Int) :
    ∃ l : Literal, l.text = toString n ∧ l.sign.negative = decide (n < 0) ∧ l.value = n := by
  have digits := digits_toDigits n.natAbs
  obtain ⟨sign, negative, minus⟩ := WrittenSign.exists_of_negative (decide (n < 0))
  refine ⟨⟨sign, .ofDigits _ digits, none, none,
    .inl (DigitRow.groups_ofDigits_ne_nil digits Nat.toDigits_ne_nil)⟩, ?_, negative, ?_⟩
  · rw [← String.toList_inj, Literal.text, String.toList_ofList, toList_toString, chars, minus]
    simp [unsigned, behindWhole, ending]
  · have size : (n.natAbs : ℚ) = |(n : ℚ)| := by rw [Nat.cast_natAbs, Int.cast_abs]
    rw [value, negative]
    simp only [Literal.size, DigitRow.number, DigitRow.plain_ofDigits, Nat.ofDigitChars_ten_toDigits,
      fractionDigits, power, Option.elim_none, Nat.ofDigitChars_nil, Nat.cast_zero, zero_div,
      add_zero, zpow_zero, mul_one, size]
    exact signed_abs (by simp)

end Literal

namespace Double

/-- A finite double is nearest to every literal of its sign that rounds to its magnitude. -/
theorem nearestTo_literal {d : Double} {l : Literal} (finite : d.isFinite)
    (sign : l.sign.negative = d.negative) (within : Within d.rank l.size) :
    d.NearestTo l.value := by
  apply nearestTo_of_within finite
  · rw [l.abs_value, ← sign]
    rfl
  · rwa [l.abs_value]

end Double

namespace Value

open Double

/-- The numeral of a finite double other than zero is a literal that the double is nearest to. The
double is not nearest to any number with fewer digits, and no number with as many digits that it is
nearest to is closer to it. -/
theorem numeral_shortest {d : Double} (finite : d.isFinite) (nonzero : d.value ≠ 0) :
    ∃ l : Literal, (double d).numeral = .ok l.text ∧ d.NearestTo l.value ∧
      (∀ count < l.significantDigits, ∀ q, FitsDigits count q → ¬ d.NearestTo q) ∧
      ∀ q, FitsDigits l.significantDigits q → d.NearestTo q →
        |l.value - d.value| ≤ |q - d.value| := by
  obtain ⟨l, text, sign, within, minimal⟩ := exists_literal_text finite
  have rank : d.rank ≠ 0 := by
    intro zero
    rw [value_eq, zero, magnitude_zero] at nonzero
    cases d.negative <;> exact nonzero (by simp [signed])
  obtain ⟨size, digits⟩ := minimal rank
  have bounded : d.rank < infinityRank := of_decide_eq_true finite
  refine ⟨l, numeral_eq_ok_iff.mpr ⟨d, rfl, text.symm⟩, nearestTo_literal finite sign within, ?_, ?_⟩
  · intro count fewer q fits nearest
    have enough := (shortest_minimal (Nat.pos_of_ne_zero rank) bounded fits nearest.within).1
    omega
  · intro q fits nearest
    have closer := (shortest_minimal (Nat.pos_of_ne_zero rank) bounded fits nearest.within).2 digits
    have same : |l.value - d.value| = |l.size - magnitude d.rank| := by
      rw [distance_of_sign, l.abs_value]
      rw [l.abs_value, ← sign]
      rfl
    calc |l.value - d.value|
      _ = |(shortest d.rank).value - magnitude d.rank| := by rw [same, size]
      _ ≤ |(|q| - magnitude d.rank)| := closer
      _ ≤ |q - d.value| := distance_abs_le d q

/-- One tenth is shown with one digit, and no closer number with one digit rounds to it. -/
theorem numeral_shortest_tenth :
    (Double.ofBits 0x3FB999999999999A).isFinite ∧ (Double.ofBits 0x3FB999999999999A).value ≠ 0 ∧
      ∃ l : Literal, l.text = "0.1" ∧ (Double.ofBits 0x3FB999999999999A).NearestTo l.value ∧
        ∀ q, FitsDigits l.significantDigits q →
          (Double.ofBits 0x3FB999999999999A).NearestTo q →
            |l.value - (Double.ofBits 0x3FB999999999999A).value| ≤
              |q - (Double.ofBits 0x3FB999999999999A).value| := by
  have finite : (Double.ofBits 0x3FB999999999999A).isFinite := by decide
  have nonzero : (Double.ofBits 0x3FB999999999999A).value ≠ 0 := by decide +kernel
  have numeral : (double (.ofBits 0x3FB999999999999A)).numeral = .ok "0.1" := by decide +kernel
  obtain ⟨l, same, nearest, _, closer⟩ := numeral_shortest finite nonzero
  exact ⟨finite, nonzero, l, Except.ok.inj (same.symm.trans numeral), nearest, closer⟩

/-- An integer has no numeral exactly if it is beyond the bound. -/
theorem numeral_int_eq_error_iff {n : Int} :
    (int n).numeral = .error .tooLarge ↔ overflowBound ≤ |(n : ℚ)| := by
  rw [← ofInt?_eq_none_iff, numeral, toDouble]
  cases ofInt? n with
  | none => exact iff_of_true rfl rfl
  | some d => exact iff_of_false (by simp [Except.map]) (by simp)

/-- An integer below the bound has the numeral of the double nearest to it. -/
theorem numeral_int_nearest {n : Int} (bounded : |(n : ℚ)| < overflowBound) :
    ∃ d : Double, d.NearestTo n ∧ d.negative = decide (n < 0) ∧ (int n).numeral = .ok d.text := by
  obtain ⟨d, found, nearest, sign⟩ := ofInt?_nearestTo bounded
  refine ⟨d, nearest, sign, numeral_eq_ok_iff.mpr ⟨d, ?_, rfl⟩⟩
  rw [toDouble, found, Option.elim_some]

/-- A literal below the bound has the numeral of the double of its sign nearest to it. -/
theorem numeral_literal_nearest {l : Literal} (bounded : |l.value| < overflowBound) :
    ∃ d : Double, d.NearestTo l.value ∧ d.negative = l.sign.negative ∧
      (text l.text).numeral = .ok d.text := by
  rw [l.abs_value, ← l.value_decimal] at bounded
  have nearest := ofDecimal_nearestTo l.sign.negative bounded
  rw [l.value_decimal] at nearest
  exact ⟨_, nearest, rfl, numeral_eq_ok_iff.mpr ⟨_, toDouble_of_read? l.read?_text, rfl⟩⟩

/-- A literal from the bound on has the numeral of infinity. -/
theorem numeral_literal_infinite {l : Literal} (large : overflowBound ≤ |l.value|) :
    (text l.text).numeral = .ok (if l.sign.negative then "-inf" else "inf") := by
  rw [l.abs_value, ← l.value_decimal] at large
  have read := l.read?_text
  rw [ofDecimal_eq_infinite l.sign.negative large] at read
  refine numeral_eq_ok_iff.mpr ⟨_, toDouble_of_read? read, ?_⟩
  cases l.sign.negative <;> rfl

/-- The numeral of an integer up to `2 ^ 53` has the digits of the integer. -/
theorem numeral_int_small {n : Int} (small : |n| ≤ 2 ^ 53) :
    (int n).numeral = .ok (toString n ++ ".0") := by
  have fits : n.natAbs ≤ 2 ^ 53 := by
    rw [← Int.natCast_natAbs] at small
    exact_mod_cast small
  have size : (n.natAbs : ℚ) = |(n : ℚ)| := by rw [Nat.cast_natAbs, Int.cast_abs]
  obtain ⟨d, nearest, sign, numeral⟩ := numeral_int_nearest (size ▸ lt_overflowBound fits)
  obtain ⟨rank, same⟩ := exists_magnitude fits
  have exactly : d.rank = rank := by
    apply nearest.within.unique (abs_nonneg _)
    rw [← size, ← same]
    exact within_magnitude rank
  have finite : d.rank < infinityRank := of_decide_eq_true nearest.finite
  rw [numeral, Except.ok.injEq, ← String.toList_inj, toList_text_of_number finite.le, sign,
    magnitudeText_natCast fits (exactly ▸ same), String.toList_append, Literal.toList_toString]
  simp

/-- Where an integer has a numeral, its decimal text has the same one. -/
theorem numeral_toString {n : Int} {t : String} (numeral : (int n).numeral = .ok t) :
    (text (toString n)).numeral = .ok t := by
  have bounded : |(n : ℚ)| < overflowBound := by
    rw [← not_le, ← numeral_int_eq_error_iff, numeral]
    simp
  obtain ⟨l, written, sign, value⟩ := Literal.exists_toString n
  obtain ⟨d, nearest, negative, own⟩ := numeral_int_nearest bounded
  obtain ⟨e, literal, alike, other⟩ := numeral_literal_nearest (value ▸ bounded)
  have same : d = e := nearest.unique (value ▸ literal) (by rw [negative, alike, sign])
  rw [← written, other, ← same, ← own, numeral]

/-- Integers and literals are converted to the nearest double. -/
theorem numeral_rounded (n : Int) (l : Literal) :
    ((int n).numeral = .error .tooLarge ↔ overflowBound ≤ |(n : ℚ)|) ∧
    (|(n : ℚ)| < overflowBound → ∃ d : Double, d.NearestTo n ∧ d.negative = decide (n < 0) ∧
      (int n).numeral = .ok d.text) ∧
    (|n| ≤ 2 ^ 53 → (int n).numeral = .ok (toString n ++ ".0")) ∧
    (|l.value| < overflowBound → ∃ d : Double, d.NearestTo l.value ∧
      d.negative = l.sign.negative ∧ (text l.text).numeral = .ok d.text) ∧
    (overflowBound ≤ |l.value| →
      (text l.text).numeral = .ok (if l.sign.negative then "-inf" else "inf")) ∧
    ∀ t, (int n).numeral = .ok t → (text (toString n)).numeral = .ok t :=
  ⟨numeral_int_eq_error_iff, numeral_int_nearest, numeral_int_small, numeral_literal_nearest,
    numeral_literal_infinite, fun _ => numeral_toString⟩

/-- The least integer between two doubles, a tie that goes to the even one, and its decimal text. -/
theorem numeral_rounded_tie : (int (2 ^ 53 + 1)).numeral = .ok "9007199254740992.0" ∧
    (text (toString ((2 : Int) ^ 53 + 1))).numeral = .ok "9007199254740992.0" ∧
    ∃ d : Double, d.NearestTo ((2 ^ 53 + 1 : Int) : ℚ) ∧ d.text = "9007199254740992.0" := by
  have numeral : (int (2 ^ 53 + 1)).numeral = .ok "9007199254740992.0" := by decide +kernel
  obtain ⟨l, _⟩ := Literal.exists_toString (2 ^ 53 + 1)
  obtain ⟨tooLarge, rounded, _, _, _, same⟩ := numeral_rounded (2 ^ 53 + 1) l
  have bounded : |((2 ^ 53 + 1 : Int) : ℚ)| < overflowBound := by
    rw [← not_le, ← tooLarge, numeral]
    simp
  obtain ⟨d, nearest, _, shown⟩ := rounded bounded
  exact ⟨numeral, same _ numeral, d, nearest, Except.ok.inj (shown.symm.trans numeral)⟩

end Value

end DrawingCode
