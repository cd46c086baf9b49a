import DrawingCode.Double.Written
import DrawingCode.Proofs.Double.Rounding

/-! # Seventeen digits are enough

The decimals with seventeen digits lie closer together than the doubles, so one of the two
neighbours of a double among them rounds to it. The search for a shortest decimal therefore always
finds one, and what it finds rounds to the double that it was looked for.
-/

namespace DrawingCode

namespace Double

/-- Next to a magnitude the gap is the same above and below, except that it is half as wide below
the least magnitude of a scale. -/
theorem units_neighbours {rank : Nat} (positive : 0 < rank) :
    ∃ gap, 0 < gap ∧ units (rank + 1) = units rank + gap ∧
      (units rank < 2 ^ 53 * gap ∧ units (rank - 1) + gap = units rank ∨
        units rank = 2 ^ 52 * gap ∧ rank % 2 = 0) := by
  obtain ⟨scale, whole, normal, bound, rfl⟩ := exists_scale rank
  refine ⟨2 ^ scale, Nat.two_pow_pos scale, ?_, ?_⟩
  · rw [Nat.add_assoc, units_scaled (by omega) (by omega), units_scaled normal bound.le]
    ring
  · by_cases least : scale = 0 ∨ 2 ^ 52 < whole
    · left
      have pred : scale * 2 ^ 52 + whole - 1 = scale * 2 ^ 52 + (whole - 1) := by omega
      have next : (whole - 1) * 2 ^ scale + 2 ^ scale = whole * 2 ^ scale := by
        rw [← Nat.succ_mul, Nat.succ_eq_add_one, Nat.sub_add_cancel (by omega)]
      rw [pred, units_scaled normal bound.le, units_scaled (by omega) (by omega)]
      exact ⟨Nat.mul_lt_mul_of_pos_right bound (Nat.two_pow_pos scale), next⟩
    · right
      obtain rfl : whole = 2 ^ 52 := by omega
      exact ⟨units_scaled normal bound.le, by omega⟩

/-- Of two neighbours on a grid that is fine for a magnitude between them, one rounds to it. Below
the least magnitude of a scale there is less room, so the upper neighbour is taken there. -/
theorem roundsTo_neighbour {rank low step denominator : Nat} (positive : 0 < rank)
    (fine : unitsPerOne * step * 10 ^ 16 ≤ units rank * denominator)
    (lower : low * (unitsPerOne * step) ≤ units rank * denominator)
    (upper : units rank * denominator < (low + 1) * (unitsPerOne * step)) :
    RoundsTo (low * step) denominator rank ∨ RoundsTo ((low + 1) * step) denominator rank := by
  obtain ⟨gap, _, above, sides⟩ := units_neighbours positive
  have atNext : units (rank + 1) * denominator = units rank * denominator + gap * denominator := by
    rw [above, Nat.add_mul]
  have before : units (rank - 1) * denominator ≤ units rank * denominator :=
    Nat.mul_le_mul_right _ (units_strictMono.monotone (Nat.sub_le _ _))
  have atLow : 2 * (low * step * unitsPerOne) = 2 * (low * (unitsPerOne * step)) := by ring
  have atHigh : 2 * ((low + 1) * step * unitsPerOne) =
      2 * (low * (unitsPerOne * step)) + 2 * (unitsPerOne * step) := by ring
  have parity := Nat.mod_two_eq_zero_or_one rank
  rw [Nat.succ_mul] at upper
  generalize unitsPerOne * step = spacing at *
  rcases sides with ⟨bound, below⟩ | ⟨least, even⟩
  · have atPrev :
        units (rank - 1) * denominator + gap * denominator = units rank * denominator := by
      rw [← Nat.add_mul, below]
    have bounded : units rank * denominator ≤ 2 ^ 53 * (gap * denominator) := by
      rw [← Nat.mul_assoc]
      exact Nat.mul_le_mul_right _ bound.le
    by_cases near : 2 * (units rank * denominator) ≤ 2 * (low * spacing) + spacing
    · left
      constructor
      · rw [atLow, Nat.add_mul]
        omega
      · rw [atLow, Nat.add_mul]
        omega
    · right
      constructor
      · rw [atHigh, Nat.add_mul]
        omega
      · rw [atHigh, Nat.add_mul]
        omega
  · right
    have bounded : units rank * denominator = 2 ^ 52 * (gap * denominator) := by
      rw [least, Nat.mul_assoc]
    constructor
    · rw [atHigh, Nat.add_mul, even]
      omega
    · rw [atHigh, Nat.add_mul, even]
      omega

/-- A number above zero is at least the power of ten of its first digit. -/
theorem pow_length_toDigits_le {n : Nat} (positive : 0 < n) :
    10 ^ ((Nat.toDigits 10 n).length - 1) ≤ n := by
  by_contra greater
  have bound := (Nat.length_toDigits_le_iff (by decide) ?_).mpr (Nat.lt_of_not_le greater)
  · have := @Nat.length_toDigits_pos 10 n
    omega
  · by_contra none
    simp only [Nat.pos_iff_ne_zero, ne_eq, not_not] at none
    rw [none] at greater
    exact greater positive

theorem unitsPerOne_pos : 0 < unitsPerOne := by decide +kernel

private theorem units_pos {rank : Nat} (positive : 0 < rank) : 0 < units rank :=
  units_strictMono positive

/-- Far enough from the point, every magnitude above zero has whole digits. -/
theorem distantDigits_pos {rank : Nat} (positive : 0 < rank) :
    0 < units rank * distantPower / unitsPerOne := by
  apply Nat.div_pos _ unitsPerOne_pos
  have := Nat.le_mul_of_pos_left distantPower (units_pos positive)
  have := unitsPerOne_lt_distantPower
  omega

theorem leadingPlace_eq (rank : Nat) : leadingPlace rank =
    (Nat.toDigits 10 (units rank * distantPower / unitsPerOne)).length - 401 := by
  rw [leadingPlace, distantPower]

/-- The seventeenth digit from the leading place on is worth little compared to the magnitude. -/
theorem leadingPlace_le {rank : Nat} (positive : 0 < rank) :
    unitsPerOne * 10 ^ (leadingPlace rank - 16).toNat * 10 ^ 16 ≤
      units rank * 10 ^ (-(leadingPlace rank - 16)).toNat := by
  have place := leadingPlace_eq rank
  have first := pow_length_toDigits_le (distantDigits_pos positive)
  have digits := @Nat.length_toDigits_pos 10 (units rank * distantPower / unitsPerOne)
  rw [Nat.le_div_iff_mul_le unitsPerOne_pos] at first
  generalize (Nat.toDigits 10 (units rank * distantPower / unitsPerOne)).length = length at *
  rw [place]
  have exponents : length - 1 + (-((length : Int) - 401 - 16)).toNat =
      ((length : Int) - 401 - 16).toNat + 16 + 400 := by omega
  generalize ((length : Int) - 401 - 16).toNat = up at *
  generalize (-((length : Int) - 401 - 16)).toNat = down at *
  apply Nat.le_of_mul_le_mul_right _ (show 0 < distantPower by decide +kernel)
  calc unitsPerOne * 10 ^ up * 10 ^ 16 * distantPower
    _ = unitsPerOne * (10 ^ up * 10 ^ 16 * distantPower) := by ring
    _ = 10 ^ (length - 1) * unitsPerOne * 10 ^ down := by
      rw [distantPower, ← Nat.pow_add, ← Nat.pow_add, ← exponents, Nat.pow_add]
      ring
    _ ≤ units rank * distantPower * 10 ^ down := Nat.mul_le_mul_right _ first
    _ = units rank * 10 ^ down * distantPower := by ring

/-- One of the two neighbours with seventeen digits rounds to the magnitude. -/
theorem roundsTo_below_or_above {rank : Nat} (positive : 0 < rank) :
    (below rank (leadingPlace rank - 16)).RoundsTo rank ∨
      (above rank (leadingPlace rank - 16)).RoundsTo rank := by
  apply roundsTo_neighbour positive (leadingPlace_le positive)
  · exact Nat.div_mul_le_self ..
  · have step : 0 < 10 ^ (leadingPlace rank - 16).toNat := Nat.pow_pos (by decide)
    have quotient := Nat.lt_mul_div_succ (units rank * 10 ^ (-(leadingPlace rank - 16)).toNat)
      (Nat.mul_pos unitsPerOne_pos step)
    rw [Nat.mul_comm (_ + 1)]
    exact quotient

/-- What is found at a place rounds to the magnitude. -/
theorem decimalAt?_roundsTo {rank : Nat} (finite : rank < infinityRank) {place : Int} {d : Decimal}
    (found : decimalAt? rank place = some d) : d.RoundsTo rank := by
  simp only [decimalAt?] at found
  split at found
  · next low high =>
    rw [beq_iff_eq, nearestRankOfDecimal_eq_iff finite] at low high
    split_ifs at found <;> cases found <;> assumption
  · next low _ =>
    rw [beq_iff_eq, nearestRankOfDecimal_eq_iff finite] at low
    cases found
    exact low
  · next _ high =>
    rw [beq_iff_eq, nearestRankOfDecimal_eq_iff finite] at high
    cases found
    exact high
  · cases found

/-- Where one of the neighbours rounds to the magnitude, one of them is found. -/
theorem decimalAt?_isSome {rank : Nat} (finite : rank < infinityRank) {place : Int}
    (rounds : (below rank place).RoundsTo rank ∨ (above rank place).RoundsTo rank) :
    ∃ d, decimalAt? rank place = some d := by
  rw [decimalAt?]
  rcases rounds with low | high
  · have low := beq_iff_eq.mpr ((nearestRankOfDecimal_eq_iff finite).mpr low)
    cases nearestRankOfDecimal (above rank place) == rank <;> simp only [low]
    · exact ⟨_, rfl⟩
    · exact ⟨_, rfl⟩
  · have high := beq_iff_eq.mpr ((nearestRankOfDecimal_eq_iff finite).mpr high)
    cases nearestRankOfDecimal (below rank place) == rank <;> simp only [high]
    · exact ⟨_, rfl⟩
    · exact ⟨_, rfl⟩

private theorem dropZeros_roundsTo (fuel : Nat) (d : Decimal) (rank : Nat) :
    (d.dropZeros fuel).RoundsTo rank ↔ d.RoundsTo rank := by
  induction fuel generalizing d with
  | zero => rfl
  | succ fuel ih =>
    rw [Decimal.dropZeros]
    split_ifs with zero
    · rw [ih]
      have digits : d.digits = d.digits / 10 * 10 ^ 1 := by omega
      have shift := Decimal.roundsTo_shift (d.digits / 10) 1 d.exponent rank
      rw [← digits] at shift
      exact shift.symm
    · rfl

/-- The shortest decimal of a finite magnitude above zero rounds to it. -/
theorem shortest_roundsTo {rank : Nat} (positive : 0 < rank) (finite : rank < infinityRank) :
    (shortest rank).RoundsTo rank := by
  rw [shortest, dropZeros_roundsTo]
  cases found : (List.range 17).findSome? fun further : Nat =>
      decimalAt? rank (leadingPlace rank - further) with
  | some d =>
    obtain ⟨further, _, atFurther⟩ := List.exists_of_findSome?_eq_some found
    exact decimalAt?_roundsTo finite atFurther
  | none =>
    have last := List.findSome?_eq_none_iff.mp found 16 (by decide)
    obtain ⟨d, atLast⟩ := decimalAt?_isSome finite (roundsTo_below_or_above positive)
    rw [Nat.cast_ofNat] at last
    cases last.symm.trans atLast

end Double

end DrawingCode
