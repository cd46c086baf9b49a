import DrawingCode.Proofs.Double.Printed

/-! # Integers up to `2 ^ 53`

All integers up to `2 ^ 53` are magnitudes. The doubles around such an integer are no further apart
than the integers are, so no other integer rounds to it, and a decimal fraction that does has as many
digits as the integer itself. Its shortest decimal is therefore the integer.
-/

namespace DrawingCode

variable {rank n : Nat}

namespace Decimal

/-- A decimal fraction that is no less than an integer minus one half has digits enough for it. -/
theorem le_digits_of_fraction {d : Decimal} (fraction : d.exponent < 0) (positive : 0 < n)
    (lower : (2 * n - 1 : ℚ) ≤ 2 * d.value) : n ≤ d.digits := by
  have tenth : (10 : ℚ) ^ d.exponent ≤ 10 ^ (-1 : ℤ) :=
    zpow_le_zpow_right₀ (by norm_num) (by omega)
  have value : d.value ≤ d.digits * 10 ^ (-1 : ℤ) :=
    mul_le_mul_of_nonneg_left tenth (Nat.cast_nonneg _)
  have one : (1 : ℚ) ≤ n := by exact_mod_cast positive
  have enough : (n : ℚ) ≤ d.digits := by
    norm_num at value
    linarith
  exact_mod_cast enough

private theorem value_of_whole {d : Decimal} (whole : 0 ≤ d.exponent) : d.value = d.numerator := by
  rw [← numerator_div_denominator, denominator,
    Int.toNat_of_nonpos (Int.neg_nonpos_of_nonneg whole), Nat.pow_zero, Nat.cast_one, div_one]

/-- A decimal without a fraction is an integer, and there is no other one so near. -/
theorem value_eq_of_whole {d : Decimal} (whole : 0 ≤ d.exponent)
    (near : (2 * n - 1 : ℚ) ≤ 2 * d.value ∧ 2 * d.value ≤ 2 * n + 1) : d.value = n := by
  obtain ⟨lower, upper⟩ := near
  rw [value_of_whole whole] at lower upper ⊢
  have least : 2 * n ≤ 2 * d.numerator + 1 := by
    have bound : (2 * n : ℚ) ≤ 2 * d.numerator + 1 := by linarith
    exact_mod_cast bound
  have most : 2 * d.numerator ≤ 2 * n + 1 := by exact_mod_cast upper
  rw [Nat.cast_inj]
  omega

private theorem toDigits_mul_power {m : Nat} (positive : 0 < m) (zeros : Nat) :
    Nat.toDigits 10 (m * 10 ^ zeros) = Nat.toDigits 10 m ++ List.replicate zeros '0' := by
  induction zeros with
  | zero => rw [Nat.pow_zero, Nat.mul_one, List.replicate_zero, List.append_nil]
  | succ zeros ih =>
    have some : 0 < m * 10 ^ zeros := Nat.mul_pos positive (Nat.pow_pos (by decide))
    have digit := Nat.toDigits_append_toDigits (by decide : 1 < 10) some (by decide : 0 < 10)
    rw [List.replicate_succ', ← List.append_assoc, ← ih, Nat.pow_succ, ← Nat.mul_assoc,
      Nat.mul_comm (m * 10 ^ zeros) 10]
    exact digit.symm

/-- A fraction that is an integer ends with a zero. -/
theorem exponent_nonneg_of_value {d : Decimal} (last : d.digits % 10 ≠ 0) (value : d.value = n) :
    0 ≤ d.exponent := by
  by_contra fraction
  have denominator : (d.denominator : ℚ) ≠ 0 := (Nat.cast_pos.mpr d.denominator_pos).ne'
  have ratio : d.numerator = n * d.denominator := by
    rw [← numerator_div_denominator, div_eq_iff denominator] at value
    exact_mod_cast value
  have zeros : (-d.exponent).toNat = (-d.exponent).toNat - 1 + 1 := by omega
  rw [numerator, Decimal.denominator, Int.toNat_of_nonpos (by omega), Nat.pow_zero, Nat.mul_one,
    zeros, Nat.pow_succ, ← Nat.mul_assoc] at ratio
  rw [ratio, Nat.mul_mod_left] at last
  exact last rfl

/-- A decimal that is an integer below ten to the sixteenth is written out with a zero behind the
point. -/
theorem text_of_value_natCast {d : Decimal} (last : d.digits % 10 ≠ 0) (value : d.value = n)
    (small : n < 10 ^ 16) : d.text .code = Nat.toDigits 10 n ++ ['.', '0'] := by
  have whole := exponent_nonneg_of_value last value
  rw [value_of_whole whole, Nat.cast_inj, numerator] at value
  have digits : Nat.toDigits 10 n =
      Nat.toDigits 10 d.digits ++ List.replicate d.exponent.toNat '0' := by
    rw [← value, toDigits_mul_power (by omega)]
  have few : (Nat.toDigits 10 n).length ≤ 16 :=
    (Nat.length_toDigits_le_iff (by decide) (by decide)).mpr small
  have some := @Nat.length_toDigits_pos 10 d.digits
  rw [digits, List.length_append, List.length_replicate] at few
  rw [text, digits]
  generalize Nat.toDigits 10 d.digits = row at some few ⊢
  have written : NumberFormat.code.lowestPlace ≤ d.exponent + row.length - 1 ∧
      d.exponent + row.length - 1 < NumberFormat.code.highestPlace := by
    simp only [NumberFormat.code]
    omega
  have zeros : (d.exponent + row.length - 1).toNat + 1 - row.length = d.exponent.toNat := by omega
  rw [if_pos written, plainText, if_neg (by omega), if_pos (by omega), zeros]

end Decimal

namespace Double

/-- Every multiple of a power of two is a magnitude if the factor is small enough. -/
theorem exists_units (power : Nat) {factor : Nat} (small : factor ≤ 2 ^ 53) :
    ∃ rank, units rank = factor * 2 ^ power := by
  induction power generalizing factor with
  | zero =>
    have count := units_scaled (.inl rfl) small
    exact ⟨_, count⟩
  | succ power ih =>
    rcases Nat.lt_or_ge factor (2 ^ 52) with less | normal
    · obtain ⟨rank, same⟩ := ih (show 2 * factor ≤ 2 ^ 53 by omega)
      exact ⟨rank, by rw [same, Nat.pow_succ]; ring⟩
    · exact ⟨_, units_scaled (.inr normal) small⟩

theorem exists_magnitude (small : n ≤ 2 ^ 53) : ∃ rank, magnitude rank = n := by
  obtain ⟨rank, same⟩ := exists_units 1074 small
  refine ⟨rank, ?_⟩
  rw [magnitude, same, Nat.cast_mul, ← unitsPerOne, mul_div_cancel_right₀ _ unitsPerOne_cast_pos.ne']

theorem lt_overflowBound (small : n ≤ 2 ^ 53) : (n : ℚ) < overflowBound := by
  have split : (2 : ℚ) ^ 1024 = 2 ^ 54 * 2 ^ 970 := (pow_add 2 54 970)
  have one : (1 : ℚ) ≤ 2 ^ 970 := one_le_pow₀ (by norm_num)
  have bound : (n : ℚ) ≤ 9007199254740992 := by exact_mod_cast small
  have factor : (2 : ℚ) ^ 54 = 18014398509481984 := by norm_num
  rw [overflowBound, split, factor]
  generalize (2 : ℚ) ^ 970 = halfUnit at one
  linarith

private theorem rank_pos_of_natCast (positive : 0 < n) (same : magnitude rank = n) : 0 < rank := by
  rw [← magnitude_strictMono.lt_iff_lt, magnitude_zero, same]
  exact_mod_cast positive

private theorem rank_lt_of_natCast (small : n ≤ 2 ^ 53) (same : magnitude rank = n) :
    rank < infinityRank := by
  rw [(within_magnitude rank).finite_iff, same]
  exact lt_overflowBound small

/-- What rounds to an integer below `2 ^ 53` is no further away than half of the way to the next
integer. -/
theorem Within.near_natCast (positive : 0 < n) (small : n < 2 ^ 53) (same : magnitude rank = n)
    {q : ℚ} (within : Within rank q) : (2 * n - 1 : ℚ) ≤ 2 * q ∧ 2 * q ≤ 2 * n + 1 := by
  constructor
  · obtain ⟨other, before⟩ := exists_magnitude (show n - 1 ≤ 2 ^ 53 by omega)
    rw [Nat.cast_sub positive, Nat.cast_one] at before
    have less : other < rank := by
      rw [← magnitude_strictMono.lt_iff_lt, before, same]
      linarith
    have next : magnitude other ≤ magnitude (rank - 1) :=
      magnitude_strictMono.monotone (by omega)
    linarith [within.lower]
  · obtain ⟨other, behind⟩ := exists_magnitude (show n + 1 ≤ 2 ^ 53 from small)
    rw [Nat.cast_add, Nat.cast_one] at behind
    have greater : rank < other := by
      rw [← magnitude_strictMono.lt_iff_lt, behind, same]
      linarith
    have next : magnitude (rank + 1) ≤ magnitude other := magnitude_strictMono.monotone greater
    linarith [within.upper]

private theorem length_toDigits_mono {m : Nat} (order : n ≤ m) :
    (Nat.toDigits 10 n).length ≤ (Nat.toDigits 10 m).length := by
  have bound := (Nat.length_toDigits_le_iff (by decide) Nat.length_toDigits_pos).mp
    (le_refl (Nat.toDigits 10 m).length)
  exact (Nat.length_toDigits_le_iff (by decide) Nat.length_toDigits_pos).mpr
    (order.trans_lt bound)

/-- The shortest decimal of an integer below `2 ^ 53` is the integer. A decimal fraction that rounds
to it has as many digits, and then the integer is nearer. -/
theorem value_shortest_natCast (positive : 0 < n) (small : n < 2 ^ 53)
    (same : magnitude rank = n) : (shortest rank).value = n := by
  have above := rank_pos_of_natCast positive same
  have finite := rank_lt_of_natCast small.le same
  have rounds := roundsTo_iff_within_value.mp (shortest_roundsTo above finite)
  have near := rounds.near_natCast positive small same
  rcases lt_or_ge (shortest rank).exponent 0 with fraction | whole
  · have fits : FitsDigits (Nat.toDigits 10 n).length n :=
      ⟨n, 0, (Nat.length_toDigits_le_iff (by decide) Nat.length_toDigits_pos).mp (le_refl _),
        by simp⟩
    have own : Within rank |(n : ℚ)| := by
      rw [Nat.abs_cast, ← same]
      exact within_magnitude rank
    obtain ⟨few, nearer⟩ := shortest_minimal above finite fits own
    have many : n ≤ (shortest rank).digits :=
      Decimal.le_digits_of_fraction fraction positive near.1
    have exactly := nearer (le_antisymm (length_toDigits_mono many) few)
    rw [Nat.abs_cast, same, sub_self, abs_zero] at exactly
    exact sub_eq_zero.mp (abs_nonpos_iff.mp exactly)
  · exact Decimal.value_eq_of_whole whole near

/-- The magnitude of an integer up to `2 ^ 53` is written with the digits of the integer. That bound
is computed, since the integer behind it rounds to it too. -/
theorem magnitudeText_natCast (small : n ≤ 2 ^ 53) (same : magnitude rank = n) :
    magnitudeText .code rank = Nat.toDigits 10 n ++ ['.', '0'] := by
  rcases Nat.eq_zero_or_pos n with rfl | positive
  · obtain rfl : rank = 0 :=
      magnitude_strictMono.injective (by rw [same, magnitude_zero, Nat.cast_zero])
    rfl
  rcases small.lt_or_eq with less | rfl
  · have above := rank_pos_of_natCast positive same
    have finite := rank_lt_of_natCast small same
    rw [magnitudeText, if_neg above.ne', if_neg finite.ne]
    exact Decimal.text_of_value_natCast (digits_shortest_mod above finite)
      (value_shortest_natCast positive less same) (less.trans (by decide))
  · have here : magnitude (1076 * 2 ^ 52) = (2 ^ 53 : Nat) := by
      have units : units (1076 * 2 ^ 52) = 2 ^ 53 * unitsPerOne := by decide +kernel
      rw [magnitude, units, Nat.cast_mul, mul_div_cancel_right₀ _ unitsPerOne_cast_pos.ne']
    obtain rfl : rank = 1076 * 2 ^ 52 := magnitude_strictMono.injective (same.trans here.symm)
    decide +kernel

end Double

end DrawingCode
