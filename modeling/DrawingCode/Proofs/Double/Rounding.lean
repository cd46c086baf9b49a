import DrawingCode.Double.Nearest
import Mathlib.Tactic.Ring
import Mathlib.Tactic.GCongr
import Mathlib.Order.Monotone.Basic

/-! # What rounding to the nearest double means

The magnitudes grow with their ranks, so a ratio has at most one nearest magnitude once ties are
settled by the parity of the rank. `RoundsTo` says which one that is, by the midpoints to the
neighbouring magnitudes, and `nearestRank_eq_iff` says that the division behind `nearestRank` finds
it. Decimals beyond the powers of ten that are looked at are no exception as long as the magnitude
is finite.
-/

namespace DrawingCode

namespace Double

/-- On one scale a rank counts multiples of a power of two, up to and including the first
multiple of the next scale. -/
theorem units_scaled {scale whole : Nat} (normal : scale = 0 ∨ 2 ^ 52 ≤ whole)
    (bound : whole ≤ 2 ^ 53) : units (scale * 2 ^ 52 + whole) = whole * 2 ^ scale := by
  rcases Nat.lt_or_ge whole (2 ^ 53) with below | carried
  · rcases Nat.eq_zero_or_pos scale with rfl | positive
    · have small : 0 * 2 ^ 52 + whole < 2 ^ 53 := by omega
      rw [units, if_pos small]
      omega
    · have large : ¬ scale * 2 ^ 52 + whole < 2 ^ 53 := by omega
      have upper : (scale * 2 ^ 52 + whole) / 2 ^ 52 = scale + 1 := by omega
      have lower : 2 ^ 52 + (scale * 2 ^ 52 + whole) % 2 ^ 52 = whole := by omega
      rw [units, if_neg large, upper, lower, Nat.add_sub_cancel]
  · obtain rfl : whole = 2 ^ 53 := Nat.le_antisymm bound carried
    have large : ¬ scale * 2 ^ 52 + 2 ^ 53 < 2 ^ 53 := by omega
    have upper : (scale * 2 ^ 52 + 2 ^ 53) / 2 ^ 52 = scale + 2 := by omega
    have lower : 2 ^ 52 + (scale * 2 ^ 52 + 2 ^ 53) % 2 ^ 52 = 2 ^ 52 := by omega
    rw [units, if_neg large, upper, lower, show scale + 2 - 1 = scale + 1 from rfl, Nat.pow_succ]
    ring

/-- Every rank stands on a scale. -/
theorem exists_scale (rank : Nat) : ∃ scale whole, (scale = 0 ∨ 2 ^ 52 ≤ whole) ∧
    whole < 2 ^ 53 ∧ rank = scale * 2 ^ 52 + whole := by
  rcases Nat.lt_or_ge rank (2 ^ 53) with small | large
  · exact ⟨0, rank, .inl rfl, small, by omega⟩
  · exact ⟨rank / 2 ^ 52 - 1, 2 ^ 52 + rank % 2 ^ 52, .inr (by omega), by omega, by omega⟩

theorem units_strictMono : StrictMono units := by
  apply strictMono_nat_of_lt_succ
  intro rank
  obtain ⟨scale, whole, normal, bound, rfl⟩ := exists_scale rank
  rw [units_scaled normal (by omega), Nat.add_assoc, units_scaled (by omega) (by omega)]
  exact Nat.mul_lt_mul_of_pos_right (Nat.lt_succ_self whole) (Nat.two_pow_pos _)

/-- A ratio rounds to a magnitude if it lies between the midpoints to the magnitudes next to it,
and strictly between them if the rank is odd. Everything is doubled and brought to the denominator
of the ratio. -/
structure RoundsTo (numerator denominator rank : Nat) : Prop where
  lower : (units (rank - 1) + units rank) * denominator + rank % 2 ≤
    2 * (numerator * unitsPerOne)
  upper : 2 * (numerator * unitsPerOne) + rank % 2 ≤
    (units rank + units (rank + 1)) * denominator

/-- No ratio rounds to two magnitudes: a midpoint that they share is a tie, and only one of two
neighbours is even. -/
theorem RoundsTo.rank_le {numerator denominator rank other : Nat} (positive : 0 < denominator)
    (first : RoundsTo numerator denominator rank)
    (second : RoundsTo numerator denominator other) : rank ≤ other := by
  by_contra greater
  have pred : units other ≤ units (rank - 1) := units_strictMono.monotone (by omega)
  have succ : units (other + 1) ≤ units rank := units_strictMono.monotone (by omega)
  have nested : (units other + units (other + 1)) * denominator ≤
      (units (rank - 1) + units rank) * denominator :=
    Nat.mul_le_mul_right _ (Nat.add_le_add pred succ)
  have lower := first.lower
  have upper := second.upper
  have shared : (units other + units (other + 1)) * denominator =
      (units (rank - 1) + units rank) * denominator := by omega
  have sums := Nat.eq_of_mul_eq_mul_right positive shared
  have adjacent : other = rank - 1 := units_strictMono.injective (by omega)
  omega

theorem RoundsTo.unique {numerator denominator rank other : Nat} (positive : 0 < denominator)
    (first : RoundsTo numerator denominator rank)
    (second : RoundsTo numerator denominator other) : rank = other :=
  Nat.le_antisymm (first.rank_le positive second) (second.rank_le positive first)

/-- The division that rounding rests on: the quotient stands on the scale that is chosen for it. -/
theorem scale_normal (quotient : Nat) :
    let scale := quotient.log2 - 52
    (scale = 0 ∨ 2 ^ 52 ≤ quotient / 2 ^ scale) ∧ quotient / 2 ^ scale < 2 ^ 53 := by
  intro scale
  rcases Nat.eq_zero_or_pos quotient with rfl | positive
  · exact ⟨.inl rfl, by simp⟩
  have least : 2 ^ quotient.log2 ≤ quotient := Nat.log2_self_le (by omega)
  have most : quotient < 2 ^ (quotient.log2 + 1) := Nat.lt_log2_self
  refine ⟨?_, ?_⟩
  · by_cases small : scale = 0
    · exact .inl small
    · refine .inr ((Nat.le_div_iff_mul_le (Nat.two_pow_pos _)).mpr ?_)
      rwa [← Nat.pow_add, show 52 + scale = quotient.log2 by omega]
  · apply Nat.div_lt_of_lt_mul
    rw [← Nat.pow_add]
    exact most.trans_le (Nat.pow_le_pow_right (by decide) (by omega))

section Division

variable {numerator denominator scale whole rest : Nat}

/-- A quotient on its scale is rounded down if the rest is less than one half, or one half and the
quotient even. -/
theorem roundsTo_of_low_rest (positive : 0 < denominator) (normal : scale = 0 ∨ 2 ^ 52 ≤ whole)
    (bound : whole < 2 ^ 53)
    (division : denominator * 2 ^ scale * whole + rest = numerator * unitsPerOne)
    (low : 2 * rest + whole % 2 ≤ denominator * 2 ^ scale) :
    RoundsTo numerator denominator (scale * 2 ^ 52 + whole) := by
  have parity : (scale * 2 ^ 52 + whole) % 2 = whole % 2 := by omega
  have here : units (scale * 2 ^ 52 + whole) * denominator = denominator * 2 ^ scale * whole := by
    rw [units_scaled normal bound.le]; ring
  have next : units (scale * 2 ^ 52 + whole + 1) * denominator =
      denominator * 2 ^ scale * whole + denominator * 2 ^ scale := by
    rw [Nat.add_assoc, units_scaled (by omega) (by omega)]; ring
  have before : units (scale * 2 ^ 52 + whole - 1) * denominator + whole % 2 ≤
      units (scale * 2 ^ 52 + whole) * denominator := by
    rcases Nat.mod_two_eq_zero_or_one whole with even | odd
    · rw [even]
      exact Nat.mul_le_mul_right _ (units_strictMono.monotone (Nat.sub_le _ _))
    · rw [odd]
      exact Nat.mul_lt_mul_of_pos_right (units_strictMono (by omega)) positive
  constructor
  · rw [parity, Nat.add_mul]
    omega
  · rw [parity, Nat.add_mul]
    omega

/-- A quotient on its scale is rounded up if the rest is more than one half, or one half and the
quotient odd. -/
theorem roundsTo_of_high_rest (positive : 0 < denominator) (normal : scale = 0 ∨ 2 ^ 52 ≤ whole)
    (bound : whole < 2 ^ 53)
    (division : denominator * 2 ^ scale * whole + rest = numerator * unitsPerOne)
    (small : rest < denominator * 2 ^ scale)
    (high : denominator * 2 ^ scale + (whole + 1) % 2 ≤ 2 * rest) :
    RoundsTo numerator denominator (scale * 2 ^ 52 + whole + 1) := by
  have parity : (scale * 2 ^ 52 + whole + 1) % 2 = (whole + 1) % 2 := by omega
  have before : units (scale * 2 ^ 52 + whole) * denominator =
      denominator * 2 ^ scale * whole := by
    rw [units_scaled normal bound.le]; ring
  have here : units (scale * 2 ^ 52 + whole + 1) * denominator =
      denominator * 2 ^ scale * whole + denominator * 2 ^ scale := by
    rw [Nat.add_assoc, units_scaled (by omega) (by omega)]; ring
  have next : units (scale * 2 ^ 52 + whole + 1) * denominator <
      units (scale * 2 ^ 52 + whole + 1 + 1) * denominator :=
    Nat.mul_lt_mul_of_pos_right (units_strictMono (Nat.lt_succ_self _)) positive
  constructor
  · rw [parity, Nat.add_sub_cancel, Nat.add_mul]
    omega
  · rw [parity, Nat.add_mul]
    omega

end Division

theorem roundsTo_nearestRank (numerator : Nat) {denominator : Nat} (positive : 0 < denominator) :
    RoundsTo numerator denominator (nearestRank numerator denominator) := by
  obtain ⟨normal, bound⟩ := scale_normal (numerator * unitsPerOne / denominator)
  rw [Nat.div_div_eq_div_mul] at normal bound
  rw [nearestRank]
  generalize (numerator * unitsPerOne / denominator).log2 - 52 = scale at normal bound ⊢
  have spaced : 0 < denominator * 2 ^ scale := Nat.mul_pos positive (Nat.two_pow_pos scale)
  have division := Nat.div_add_mod (numerator * unitsPerOne) (denominator * 2 ^ scale)
  have small := Nat.mod_lt (numerator * unitsPerOne) spaced
  split_ifs with up
  · apply roundsTo_of_high_rest positive normal bound division small
    omega
  · rw [Nat.add_zero]
    apply roundsTo_of_low_rest positive normal bound division
    omega

private theorem nearestRank_eq_iff {numerator denominator rank : Nat} (positive : 0 < denominator) :
    nearestRank numerator denominator = rank ↔ RoundsTo numerator denominator rank := by
  constructor
  · rintro rfl
    exact roundsTo_nearestRank numerator positive
  · exact (roundsTo_nearestRank numerator positive).unique positive

/-- Only zero rounds to a magnitude from the numerator zero. -/
theorem roundsTo_zero (denominator : Nat) : RoundsTo 0 denominator 0 := by
  constructor <;> simp [units]

/-- Rounding looks at the ratio alone. -/
theorem RoundsTo.congr {numerator denominator numerator' denominator' rank : Nat}
    (positive : 0 < denominator) (positive' : 0 < denominator')
    (same : numerator * denominator' = numerator' * denominator)
    (rounds : RoundsTo numerator denominator rank) : RoundsTo numerator' denominator' rank := by
  have scaled (a : Nat) : a * denominator * denominator' = a * denominator' * denominator := by
    ring
  have transfer : 2 * (numerator * unitsPerOne) * denominator' =
      2 * (numerator' * unitsPerOne) * denominator := by
    calc 2 * (numerator * unitsPerOne) * denominator'
      _ = 2 * unitsPerOne * (numerator * denominator') := by ring
      _ = 2 * (numerator' * unitsPerOne) * denominator := by rw [same]; ring
  obtain ⟨lower, upper⟩ := rounds
  rcases Nat.mod_two_eq_zero_or_one rank with even | odd
  · rw [even, Nat.add_zero] at lower upper
    constructor <;> rw [even, Nat.add_zero] <;> apply Nat.le_of_mul_le_mul_right _ positive
    · rw [← scaled, ← transfer]
      exact Nat.mul_le_mul_right _ lower
    · rw [← scaled, ← transfer]
      exact Nat.mul_le_mul_right _ upper
  · rw [odd] at lower upper
    constructor <;> rw [odd] <;> apply Nat.lt_of_mul_lt_mul_right (a := denominator)
    · rw [← scaled, ← transfer]
      exact Nat.mul_lt_mul_of_pos_right lower positive'
    · rw [← scaled, ← transfer]
      exact Nat.mul_lt_mul_of_pos_right upper positive'

/-- A power of ten that is greater than every finite magnitude, and whose inverse is less than half
a unit. -/
def distantPower : Nat := 10 ^ 400

private theorem distantPower_le {exponent : Nat} (large : 400 ≤ exponent) :
    distantPower ≤ 10 ^ exponent := by
  unfold distantPower
  gcongr
  decide

private theorem units_infinityRank_lt : units infinityRank < distantPower * unitsPerOne := by
  decide +kernel

theorem unitsPerOne_lt_distantPower : 4 * unitsPerOne < distantPower := by
  decide +kernel

end Double

namespace Decimal

/-- A decimal rounds to a magnitude if the ratio that it stands for does. -/
def RoundsTo (d : Decimal) (rank : Nat) : Prop := Double.RoundsTo d.numerator d.denominator rank

theorem denominator_pos (d : Decimal) : 0 < d.denominator := Nat.pow_pos (by decide)

theorem RoundsTo.unique {d : Decimal} {rank other : Nat} (first : d.RoundsTo rank)
    (second : d.RoundsTo other) : rank = other :=
  Double.RoundsTo.unique d.denominator_pos first second

/-- Zeros at the end of the digits count as well as powers of ten in the exponent. -/
theorem roundsTo_shift (digits zeros : Nat) (exponent : Int) (rank : Nat) :
    RoundsTo ⟨digits * 10 ^ zeros, exponent⟩ rank ↔ RoundsTo ⟨digits, exponent + zeros⟩ rank := by
  have same : numerator ⟨digits * 10 ^ zeros, exponent⟩ * denominator ⟨digits, exponent + zeros⟩ =
      numerator ⟨digits, exponent + zeros⟩ * denominator ⟨digits * 10 ^ zeros, exponent⟩ := by
    simp only [numerator, denominator, Nat.mul_assoc, ← Nat.pow_add]
    congr 2
    omega
  exact ⟨.congr (denominator_pos _) (denominator_pos _) same,
    .congr (denominator_pos _) (denominator_pos _) same.symm⟩

end Decimal

namespace Double

/-- Decimals with a large power of ten are beyond all finite magnitudes. -/
theorem not_roundsTo_of_large {d : Decimal} {rank : Nat} (nonzero : d.digits ≠ 0)
    (large : 400 < d.exponent) (finite : rank < infinityRank) : ¬ d.RoundsTo rank := by
  intro rounds
  have upper := rounds.upper
  have one : d.denominator = 1 := by
    simp only [Decimal.denominator, show (-d.exponent).toNat = 0 by omega, Nat.pow_zero]
  have power : distantPower ≤ d.numerator := calc
    distantPower ≤ 10 ^ d.exponent.toNat := distantPower_le (by omega)
    _ ≤ d.numerator := Nat.le_mul_of_pos_left _ (Nat.pos_of_ne_zero nonzero)
  have here : units rank < units infinityRank := units_strictMono finite
  have next : units (rank + 1) ≤ units infinityRank := units_strictMono.monotone finite
  have far := units_infinityRank_lt
  have amount : distantPower * unitsPerOne ≤ d.numerator * unitsPerOne :=
    Nat.mul_le_mul_right _ power
  rw [one] at upper
  omega

/-- Decimals with a small power of ten are below half of the least magnitude above zero. -/
theorem roundsTo_zero_of_small {d : Decimal} (small : d.exponent < -(d.digits.log2 + 400)) :
    d.RoundsTo 0 := by
  have whole : d.numerator = d.digits := by
    simp only [Decimal.numerator, show d.exponent.toNat = 0 by omega, Nat.pow_zero, Nat.mul_one]
  have split : (-d.exponent).toNat = d.digits.log2 + ((-d.exponent).toNat - d.digits.log2) := by
    omega
  have power : 2 ^ d.digits.log2 * distantPower ≤ d.denominator := by
    rw [Decimal.denominator, split, Nat.pow_add]
    exact Nat.mul_le_mul (Nat.pow_le_pow_left (by decide) _) (distantPower_le (by omega))
  have digits : d.digits < 2 ^ d.digits.log2 * 2 := Nat.lt_log2_self
  have upper : 2 * (d.digits * unitsPerOne) ≤ d.denominator := calc
    2 * (d.digits * unitsPerOne) ≤ 2 * (2 ^ d.digits.log2 * 2 * unitsPerOne) :=
      Nat.mul_le_mul_left _ (Nat.mul_le_mul_right _ digits.le)
    _ = 2 ^ d.digits.log2 * (4 * unitsPerOne) := by ring
    _ ≤ 2 ^ d.digits.log2 * distantPower := Nat.mul_le_mul_left _ unitsPerOne_lt_distantPower.le
    _ ≤ d.denominator := power
  constructor
  · simp [units]
  · rw [whole]
    simpa [units] using upper

theorem nearestRankOfDecimal_eq_iff {d : Decimal} {rank : Nat} (finite : rank < infinityRank) :
    nearestRankOfDecimal d = rank ↔ d.RoundsTo rank := by
  have settled {found : Nat} (rounds : d.RoundsTo found) : found = rank ↔ d.RoundsTo rank :=
    ⟨fun same => same ▸ rounds, rounds.unique⟩
  rw [nearestRankOfDecimal]
  split_ifs with zero large small
  · apply settled
    rw [Decimal.RoundsTo, Decimal.numerator, zero, Nat.zero_mul]
    exact roundsTo_zero _
  · exact iff_of_false finite.ne' (not_roundsTo_of_large zero large finite)
  · exact settled (roundsTo_zero_of_small small)
  · exact nearestRank_eq_iff d.denominator_pos

end Double

end DrawingCode
