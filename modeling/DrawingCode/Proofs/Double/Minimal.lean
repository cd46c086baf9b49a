import DrawingCode.Proofs.Double.Nearest
import DrawingCode.Proofs.Double.Shortest
import Mathlib.Tactic.FieldSimp

/-! # The shortest decimal is the shortest

No decimal with fewer digits than the shortest one rounds to the same magnitude, and none with as
many digits is nearer to it. A number with few digits stands on a coarse grid: its last digit is not
far behind the leading place of the magnitude. Wherever a number on a grid rounds to the magnitude,
the better of the two neighbours on that grid does too, and the search looks at coarse grids first.
-/

namespace DrawingCode

/-- A number can be written with a count of digits and a power of ten. -/
def FitsDigits (count : Nat) (q : ℚ) : Prop :=
  ∃ digits exponent : ℤ, digits.natAbs < 10 ^ count ∧ q = digits * 10 ^ exponent

theorem FitsDigits.abs {count : Nat} {q : ℚ} (fits : FitsDigits count q) :
    ∃ (digits : ℕ) (exponent : ℤ), digits < 10 ^ count ∧ |q| = digits * 10 ^ exponent := by
  obtain ⟨digits, exponent, few, rfl⟩ := fits
  refine ⟨digits.natAbs, exponent, few, ?_⟩
  rw [abs_mul, abs_of_pos (zpow_pos (by norm_num : (0 : ℚ) < 10) exponent), Nat.cast_natAbs,
    Int.cast_abs]

namespace Decimal

/-- Zeros at the end of the digits count as well as powers of ten in the exponent. -/
theorem value_shift (digits zeros : Nat) (exponent : Int) :
    value ⟨digits * 10 ^ zeros, exponent⟩ = value ⟨digits, exponent + zeros⟩ := by
  simp only [value]
  rw [zpow_add₀ (by norm_num), zpow_natCast]
  push_cast
  ring

private theorem value_dropZeros (fuel : Nat) (d : Decimal) :
    (d.dropZeros fuel).value = d.value := by
  induction fuel generalizing d with
  | zero => rfl
  | succ fuel ih =>
    rw [dropZeros]
    split_ifs with zero
    · have shift := value_shift (d.digits / 10) 1 d.exponent
      rw [pow_one, Nat.div_mul_cancel (Nat.dvd_of_mod_eq_zero zero)] at shift
      rw [ih]
      exact shift.symm
    · rfl

private theorem digits_dropZeros_le (fuel : Nat) (d : Decimal) :
    (d.dropZeros fuel).digits ≤ d.digits := by
  induction fuel generalizing d with
  | zero => exact le_refl _
  | succ fuel ih =>
    rw [dropZeros]
    split_ifs with zero
    · exact (ih _).trans (Nat.div_le_self ..)
    · exact le_refl _

/-- With fuel for all of its digits, no zero is left at the end of a decimal. -/
theorem digits_dropZeros_mod {fuel : Nat} {d : Decimal} (positive : 0 < d.digits)
    (few : d.digits ≤ 10 ^ fuel) : (d.dropZeros fuel).digits % 10 ≠ 0 := by
  induction fuel generalizing d with
  | zero =>
    rw [dropZeros]
    omega
  | succ fuel ih =>
    rw [dropZeros]
    split_ifs with zero
    · apply ih <;> dsimp only <;> omega
    · exact zero

end Decimal

namespace Double

variable {rank : Nat} {place : Int}

/-- How much of the step of a grid is left behind the lower neighbour of a magnitude on it. -/
def restOfStep (rank : Nat) (place : Int) : ℚ :=
  (units rank * 10 ^ (-place).toNat % (unitsPerOne * 10 ^ place.toNat) : Nat) /
    (unitsPerOne * 10 ^ place.toNat : Nat)

private theorem step_pos (place : Int) : 0 < unitsPerOne * 10 ^ place.toNat :=
  Nat.mul_pos unitsPerOne_pos (Nat.pow_pos (by decide))

private theorem restOfStep_nonneg (rank : Nat) (place : Int) : 0 ≤ restOfStep rank place := by
  exact div_nonneg (Nat.cast_nonneg _) (Nat.cast_nonneg _)

private theorem restOfStep_lt_one (rank : Nat) (place : Int) : restOfStep rank place < 1 := by
  have step : (0 : ℚ) < (unitsPerOne * 10 ^ place.toNat : Nat) := Nat.cast_pos.mpr (step_pos place)
  rw [restOfStep, div_lt_iff₀ step, one_mul, Nat.cast_lt]
  exact Nat.mod_lt _ (step_pos place)

/-- A magnitude is its lower neighbour on a grid and the rest of the step. -/
theorem magnitude_eq (rank : Nat) (place : Int) :
    magnitude rank = ((below rank place).digits + restOfStep rank place) * 10 ^ place := by
  have step : ((unitsPerOne * 10 ^ place.toNat : Nat) : ℚ) ≠ 0 :=
    (Nat.cast_pos.mpr (step_pos place)).ne'
  have division := Nat.div_add_mod (units rank * 10 ^ (-place).toNat)
    (unitsPerOne * 10 ^ place.toNat)
  have steps : (below rank place).digits + restOfStep rank place =
      (units rank * 10 ^ (-place).toNat : Nat) / (unitsPerOne * 10 ^ place.toNat : Nat) := by
    rw [restOfStep, below, eq_div_iff step, add_mul, div_mul_cancel₀ _ step, ← Nat.cast_mul,
      ← Nat.cast_add, Nat.mul_comm, division]
  have power : (10 : ℚ) ^ place = 10 ^ place.toNat / 10 ^ (-place).toNat := by
    rw [← zpow_natCast, ← zpow_natCast, ← zpow_sub₀ (by norm_num)]
    congr 1
    omega
  have one := unitsPerOne_cast_pos
  rw [steps, power, magnitude]
  simp only [Nat.cast_mul, Nat.cast_pow, Nat.cast_ofNat]
  generalize (unitsPerOne : ℚ) = one at *
  field_simp

private theorem roundsUp_iff : roundsUp rank place = true ↔ 1 < 2 * restOfStep rank place ∨
    1 = 2 * restOfStep rank place ∧ (below rank place).digits % 2 = 1 := by
  have step : (0 : ℚ) < (unitsPerOne * 10 ^ place.toNat : Nat) := Nat.cast_pos.mpr (step_pos place)
  have double (rest : Nat) : 2 * (rest : ℚ) = (2 * rest : Nat) := by
    rw [Nat.cast_mul, Nat.cast_ofNat]
  rw [restOfStep, mul_div_assoc', lt_div_iff₀ step, eq_div_iff step.ne', one_mul, double,
    Nat.cast_lt, Nat.cast_inj, roundsUp]
  simp only [Bool.or_eq_true, Bool.and_eq_true, decide_eq_true_eq, beq_iff_eq]

section Neighbours

theorem power_pos (place : Int) : (0 : ℚ) < 10 ^ place := zpow_pos (by norm_num) place

theorem power_mul_power (count : Nat) {place sum : Int} (same : place + count = sum) :
    ((10 ^ count : Nat) : ℚ) * 10 ^ place = 10 ^ sum := by
  rw [← same, zpow_add₀ (by norm_num), zpow_natCast, Nat.cast_pow, Nat.cast_ofNat, mul_comm]

private theorem value_below (rank : Nat) (place : Int) :
    (below rank place).value = (below rank place).digits * 10 ^ place := rfl

private theorem value_above (rank : Nat) (place : Int) :
    (above rank place).value = ((below rank place).digits + 1) * 10 ^ place := by
  rw [Decimal.value, above, Nat.cast_add, Nat.cast_one]

/-- The lower neighbour is as far from the magnitude as the rest of the step says. -/
theorem distance_below (rank : Nat) (place : Int) :
    magnitude rank - (below rank place).value = restOfStep rank place * 10 ^ place := by
  rw [magnitude_eq rank place, value_below]
  ring

private theorem distance_above (rank : Nat) (place : Int) :
    (above rank place).value - magnitude rank = (1 - restOfStep rank place) * 10 ^ place := by
  rw [magnitude_eq rank place, value_above]
  ring

private theorem value_below_le (rank : Nat) (place : Int) :
    (below rank place).value ≤ magnitude rank := by
  rw [← sub_nonneg, distance_below]
  exact mul_nonneg (restOfStep_nonneg ..) (power_pos place).le

private theorem lt_value_above (rank : Nat) (place : Int) :
    magnitude rank < (above rank place).value := by
  rw [← sub_pos, distance_above]
  exact mul_pos (sub_pos.mpr (restOfStep_lt_one ..)) (power_pos place)

/-- The neighbour that is taken where both will do is no further away than either of them. -/
theorem distance_better (rank : Nat) (place : Int) :
    let better := if roundsUp rank place then above rank place else below rank place
    |better.value - magnitude rank| ≤ |(below rank place).value - magnitude rank| ∧
      |better.value - magnitude rank| ≤ |(above rank place).value - magnitude rank| := by
  have low : |(below rank place).value - magnitude rank| =
      restOfStep rank place * 10 ^ place := by
    rw [abs_sub_comm, abs_of_nonneg (sub_nonneg.mpr (value_below_le ..)), distance_below]
  have high : |(above rank place).value - magnitude rank| =
      (1 - restOfStep rank place) * 10 ^ place := by
    rw [abs_of_pos (sub_pos.mpr (lt_value_above ..)), distance_above]
  have power := power_pos place
  split_ifs with up
  · refine ⟨?_, le_refl _⟩
    rw [low, high, mul_le_mul_iff_left₀ power]
    rcases roundsUp_iff.mp up with greater | ⟨half, -⟩ <;> linarith
  · refine ⟨le_refl _, ?_⟩
    rw [low, high, mul_le_mul_iff_left₀ power]
    rw [roundsUp_iff, not_or] at up
    linarith [not_lt.mp up.1]

/-- What is found at a place is one of the two neighbours, and neither of them is nearer to the
magnitude if it rounds to it. -/
theorem decimalAt?_nearer (finite : rank < infinityRank) {d : Decimal}
    (found : decimalAt? rank place = some d) :
    (d = below rank place ∨ d = above rank place) ∧
      ((below rank place).RoundsTo rank →
        |d.value - magnitude rank| ≤ |(below rank place).value - magnitude rank|) ∧
      ((above rank place).RoundsTo rank →
        |d.value - magnitude rank| ≤ |(above rank place).value - magnitude rank|) := by
  rw [← nearestRankOfDecimal_eq_iff finite, ← nearestRankOfDecimal_eq_iff finite]
  simp only [decimalAt?] at found
  split at found
  · obtain ⟨low, high⟩ := distance_better rank place
    cases found
    refine ⟨?_, fun _ => low, fun _ => high⟩
    split_ifs
    · exact .inr rfl
    · exact .inl rfl
  · next _ high =>
    cases found
    exact ⟨.inl rfl, fun _ => le_refl _, fun rounds => absurd rounds (beq_eq_false_iff_ne.mp high)⟩
  · next low _ =>
    cases found
    exact ⟨.inr rfl, fun rounds => absurd rounds (beq_eq_false_iff_ne.mp low), fun _ => le_refl _⟩
  · cases found

/-- If a number on a grid rounds to a magnitude, something is found on that grid which is at least
as near. -/
theorem exists_decimalAt?_of_within (finite : rank < infinityRank) {steps : Nat}
    (within : Within rank (steps * 10 ^ place)) :
    ∃ d, decimalAt? rank place = some d ∧
      |d.value - magnitude rank| ≤ |steps * 10 ^ place - magnitude rank| := by
  have power := power_pos place
  rcases Nat.lt_or_ge (below rank place).digits steps with greater | less
  · have beyond : (above rank place).value ≤ steps * 10 ^ place := by
      rw [value_above, mul_le_mul_iff_left₀ power]
      exact_mod_cast greater
    have rounds : (above rank place).RoundsTo rank := roundsTo_iff_within_value.mpr
      ((within_magnitude rank).convex within (lt_value_above ..).le beyond)
    obtain ⟨d, found⟩ := decimalAt?_isSome finite (.inr rounds)
    refine ⟨d, found, ((decimalAt?_nearer finite found).2.2 rounds).trans ?_⟩
    have above := lt_value_above rank place
    rw [abs_of_pos (by linarith), abs_of_pos (by linarith)]
    linarith
  · have beyond : steps * 10 ^ place ≤ (below rank place).value := by
      rw [value_below, mul_le_mul_iff_left₀ power]
      exact_mod_cast less
    have rounds : (below rank place).RoundsTo rank := roundsTo_iff_within_value.mpr
      (within.convex (within_magnitude rank) beyond (value_below_le ..))
    obtain ⟨d, found⟩ := decimalAt?_isSome finite (.inl rounds)
    refine ⟨d, found, ((decimalAt?_nearer finite found).2.1 rounds).trans ?_⟩
    have below := value_below_le rank place
    rw [abs_of_nonpos (by linarith), abs_of_nonpos (by linarith)]
    linarith

end Neighbours

section LeadingPlace

/-- The leading place of a magnitude is that of its first digit. -/
theorem leadingPlace_spec (positive : 0 < rank) :
    (10 : ℚ) ^ leadingPlace rank ≤ magnitude rank ∧
      magnitude rank < 10 ^ (leadingPlace rank + 1) := by
  have place := leadingPlace_eq rank
  have first := pow_length_toDigits_le (distantDigits_pos positive)
  have length := @Nat.length_toDigits_pos 10 (units rank * distantPower / unitsPerOne)
  have last := (Nat.length_toDigits_le_iff (by decide) length).mp (le_refl _)
  have cast (count : Nat) : ((10 ^ count : Nat) : ℚ) = 10 ^ (count : ℤ) := by
    rw [Nat.cast_pow, Nat.cast_ofNat, zpow_natCast]
  have distant : (distantPower : ℚ) = 10 ^ (400 : ℤ) := cast 400
  have far : (0 : ℚ) < distantPower := by
    rw [distant]
    exact power_pos 400
  have shift (count : Nat) :
      (10 : ℚ) ^ ((count : ℤ) - 400) * distantPower = (10 ^ count : Nat) := by
    rw [distant, ← zpow_add₀ (by norm_num), sub_add_cancel, cast]
  have amount : magnitude rank * distantPower =
      (units rank * distantPower : Nat) / (unitsPerOne : ℚ) := by
    rw [magnitude, Nat.cast_mul]
    ring
  generalize (Nat.toDigits 10 (units rank * distantPower / unitsPerOne)).length = count at *
  constructor
  · rw [← mul_le_mul_iff_left₀ far, amount, place,
      show (count : ℤ) - 401 = (count - 1 : Nat) - 400 by omega, shift,
      le_div_iff₀ unitsPerOne_cast_pos, ← Nat.cast_mul, Nat.cast_le]
    exact (Nat.le_div_iff_mul_le unitsPerOne_pos).mp first
  · rw [← mul_lt_mul_iff_left₀ far, amount, place,
      show (count : ℤ) - 401 + 1 = (count : ℤ) - 400 by omega, shift,
      div_lt_iff₀ unitsPerOne_cast_pos, ← Nat.cast_mul, Nat.cast_lt]
    exact (Nat.div_lt_iff_lt_mul unitsPerOne_pos).mp last

/-- A number of few digits that rounds to a magnitude stands on a coarse grid, or the power of ten
at the leading place is on that grid and lies in between. -/
theorem exists_steps_of_fits (positive : 0 < rank) {count : Nat} {q : ℚ}
    (fits : FitsDigits (count + 1) q) (within : Within rank |q|) :
    ∃ steps : Nat, Within rank (steps * 10 ^ (leadingPlace rank - count)) ∧
      |steps * 10 ^ (leadingPlace rank - count) - magnitude rank| ≤ |(|q| - magnitude rank)| := by
  obtain ⟨digits, exponent, few, written⟩ := fits.abs
  rw [written] at within ⊢
  rcases le_or_gt (leadingPlace rank - count) exponent with coarse | fine
  · refine ⟨digits * 10 ^ (exponent - (leadingPlace rank - count)).toNat, ?_⟩
    have same : leadingPlace rank - count + (exponent - (leadingPlace rank - count)).toNat =
        exponent := by omega
    rw [Nat.cast_mul, mul_assoc, power_mul_power _ same]
    exact ⟨within, le_refl _⟩
  · refine ⟨10 ^ count, ?_⟩
    have below : (digits : ℚ) * 10 ^ exponent ≤ 10 ^ leadingPlace rank := calc
      (digits : ℚ) * 10 ^ exponent
      _ ≤ (10 ^ (count + 1) : Nat) * 10 ^ exponent :=
        mul_le_mul_of_nonneg_right (Nat.cast_le.mpr few.le) (power_pos exponent).le
      _ = 10 ^ (exponent + (count + 1 : Nat)) := power_mul_power _ rfl
      _ ≤ 10 ^ leadingPlace rank := zpow_le_zpow_right₀ (by norm_num) (by omega)
    have here := (leadingPlace_spec positive).1
    rw [power_mul_power count (sub_add_cancel ..)]
    refine ⟨within.convex (within_magnitude rank) below here, ?_⟩
    rw [abs_of_nonpos (by linarith), abs_of_nonpos (by linarith)]
    linarith

/-- The neighbours on a grid have one digit more than there are places behind the leading one, but
for the next power of ten. -/
theorem digits_le_of_decimalAt? (positive : 0 < rank) (finite : rank < infinityRank)
    {further : Nat} {d : Decimal}
    (found : decimalAt? rank (leadingPlace rank - further) = some d) :
    0 < d.digits ∧ d.digits ≤ 10 ^ (further + 1) := by
  obtain ⟨lower, upper⟩ := leadingPlace_spec positive
  have power := power_pos (leadingPlace rank - further)
  have least : 10 ^ further < (below rank (leadingPlace rank - further)).digits + 1 := by
    have between := lower.trans_lt (lt_value_above rank (leadingPlace rank - further))
    rw [value_above, ← power_mul_power further (sub_add_cancel ..),
      mul_lt_mul_iff_left₀ power] at between
    exact_mod_cast between
  have most : (below rank (leadingPlace rank - further)).digits < 10 ^ (further + 1) := by
    have between := (value_below_le rank (leadingPlace rank - further)).trans_lt upper
    have next : leadingPlace rank - further + (further + 1 : Nat) = leadingPlace rank + 1 := by
      omega
    rw [value_below, ← power_mul_power (further + 1) next, mul_lt_mul_iff_left₀ power] at between
    exact_mod_cast between
  have one : 0 < 10 ^ further := Nat.pow_pos (by decide)
  rcases (decimalAt?_nearer finite found).1 with rfl | rfl
  · omega
  · rw [above]
    dsimp only
    omega

end LeadingPlace

/-- Without digits there is only zero, which rounds to zero. -/
theorem not_within_of_fitsDigits_zero (positive : 0 < rank) {q : ℚ} (fits : FitsDigits 0 q) :
    ¬ Within rank |q| := by
  intro within
  obtain ⟨digits, exponent, few, zero⟩ := fits.abs
  obtain rfl : digits = 0 := Nat.lt_one_iff.mp few
  rw [Nat.cast_zero, zero_mul] at zero
  have nothing : Within 0 |q| := by
    rw [zero, ← magnitude_zero]
    exact within_magnitude 0
  exact positive.ne' (within.unique (abs_nonneg q) nothing)

section Shortest

variable (positive : 0 < rank) (finite : rank < infinityRank)

include positive finite

/-- The search ends at the coarsest grid on which there is something to be found. -/
theorem shortest_eq : ∃ (further : Nat) (d : Decimal), further ≤ 16 ∧
    decimalAt? rank (leadingPlace rank - further) = some d ∧
      (∀ less < further, decimalAt? rank (leadingPlace rank - less) = none) ∧
      shortest rank = d.dropZeros 17 := by
  rw [shortest]
  cases found : (List.range 17).findSome? fun further : Nat =>
      decimalAt? rank (leadingPlace rank - further) with
  | some d =>
    obtain ⟨before, further, behind, all, here, none⟩ := List.findSome?_eq_some_iff.mp found
    rw [List.range_eq_range'] at all
    obtain ⟨length, -, rfl, rest⟩ := List.range'_eq_append_iff.mp all
    obtain ⟨first, short, -⟩ := List.range'_eq_cons_iff.mp rest.symm
    rw [Nat.mul_one, Nat.zero_add] at first
    refine ⟨further, d, by omega, here, ?_, rfl⟩
    intro less earlier
    exact none less (List.mem_range'_1.mpr ⟨Nat.zero_le _, by omega⟩)
  | none =>
    have last := List.findSome?_eq_none_iff.mp found 16 (by decide)
    obtain ⟨d, atLast⟩ := decimalAt?_isSome finite (roundsTo_below_or_above positive)
    rw [Nat.cast_ofNat] at last
    cases last.symm.trans atLast

/-- The digits of the shortest decimal are not empty, and the last of them is not zero. -/
theorem digits_shortest_mod : (shortest rank).digits % 10 ≠ 0 := by
  obtain ⟨further, d, small, found, -, same⟩ := shortest_eq positive finite
  obtain ⟨some, few⟩ := digits_le_of_decimalAt? positive finite found
  rw [same]
  exact Decimal.digits_dropZeros_mod some
    (few.trans (Nat.pow_le_pow_right (by decide) (by omega)))

/-- The shortest decimal has a digit for each place from the leading one on to where it is found. -/
theorem length_digits_shortest {further : Nat} {d : Decimal}
    (found : decimalAt? rank (leadingPlace rank - further) = some d)
    (same : shortest rank = d.dropZeros 17) :
    (Nat.toDigits 10 (shortest rank).digits).length ≤ further + 1 := by
  have last := digits_shortest_mod positive finite
  have bound : (shortest rank).digits ≤ 10 ^ (further + 1) := by
    rw [same]
    exact (Decimal.digits_dropZeros_le ..).trans (digits_le_of_decimalAt? positive finite found).2
  rw [Nat.length_toDigits_le_iff (by decide) (Nat.succ_pos _)]
  apply lt_of_le_of_ne bound
  intro power
  rw [power, Nat.pow_succ, Nat.mul_mod_left] at last
  exact last rfl

/-- A number that rounds to the same magnitude has as many digits as the shortest decimal or more,
and if it has as many, it is no nearer. -/
theorem shortest_minimal {count : Nat} {q : ℚ} (fits : FitsDigits count q)
    (within : Within rank |q|) :
    (Nat.toDigits 10 (shortest rank).digits).length ≤ count ∧
      (count = (Nat.toDigits 10 (shortest rank).digits).length →
        |(shortest rank).value - magnitude rank| ≤ |(|q| - magnitude rank)|) := by
  obtain ⟨further, d, small, found, none, same⟩ := shortest_eq positive finite
  have few := length_digits_shortest positive finite found same
  cases count with
  | zero => exact absurd within (not_within_of_fitsDigits_zero positive fits)
  | succ count =>
    obtain ⟨steps, onGrid, nearer⟩ := exists_steps_of_fits positive fits within
    obtain ⟨e, atCount, better⟩ := exists_decimalAt?_of_within finite onGrid
    have order : further ≤ count := by
      by_contra less
      cases (none count (by omega)).symm.trans atCount
    refine ⟨few.trans (Nat.succ_le_succ order), ?_⟩
    intro exactly
    obtain rfl : further = count := by omega
    obtain rfl : d = e := Option.some.inj (found.symm.trans atCount)
    rw [same, Decimal.value_dropZeros]
    exact better.trans nearer

end Shortest

end Double

end DrawingCode
