import DrawingCode.Proofs.Double.Rounding
import Mathlib.Algebra.Order.Field.Power
import Mathlib.Tactic.Linarith
import Mathlib.Tactic.LinearCombination
import Mathlib.Tactic.NormNum

/-! # The nearest double to a rational number

A double is nearest to a number if no finite double is nearer and if, of two that are equally near,
it is the one of even rank. Numbers that are as far away as half a unit of the last place above the
greatest double have no nearest double. The numbers that a double is nearest to form an interval
between the midpoints to its neighbours, and these are the numbers that rounding takes to it.
-/

namespace DrawingCode

/-- A number with a sign put before it. -/
def signed (negative : Bool) (q : ℚ) : ℚ := if negative then -q else q

theorem abs_signed (negative : Bool) (q : ℚ) : |signed negative q| = |q| := by
  cases negative
  · rfl
  · exact abs_neg q

private theorem signed_neg (negative : Bool) (q : ℚ) :
    signed negative (-q) = -signed negative q := by
  cases negative <;> rfl

private theorem signed_sub_signed (negative : Bool) (q r : ℚ) :
    signed negative q - signed negative r = signed negative (q - r) := by
  cases negative
  · rfl
  · simp only [signed, if_true]
    ring

theorem signed_abs {negative : Bool} {q : ℚ} (sign : negative = decide (q < 0)) :
    signed negative |q| = q := by
  subst sign
  by_cases below : q < 0
  · simp [signed, below, abs_of_neg below]
  · simp [signed, below, abs_of_nonneg (not_lt.mp below)]

/-- Of two numbers the lower one is nearer to everything up to the midpoint. -/
theorem nearer_iff_of_lt {a b q : ℚ} (less : a < b) :
    |q - a| ≤ |q - b| ↔ 2 * q ≤ a + b := by
  have product : (q - b) ^ 2 - (q - a) ^ 2 = (b - a) * (a + b - 2 * q) := by ring
  rw [← sq_le_sq, ← sub_nonneg, product, mul_nonneg_iff_of_pos_left (sub_pos.mpr less), sub_nonneg]

/-- Of two numbers the higher one is nearer to everything from the midpoint on. -/
theorem nearer_iff_of_gt {a b q : ℚ} (greater : b < a) :
    |q - a| ≤ |q - b| ↔ a + b ≤ 2 * q := by
  have product : (q - b) ^ 2 - (q - a) ^ 2 = (a - b) * (2 * q - (a + b)) := by ring
  rw [← sq_le_sq, ← sub_nonneg, product, mul_nonneg_iff_of_pos_left (sub_pos.mpr greater),
    sub_nonneg]

namespace Decimal

/-- The number that a decimal stands for. -/
def value (d : Decimal) : ℚ := d.digits * 10 ^ d.exponent

theorem value_nonneg (d : Decimal) : 0 ≤ d.value := by
  unfold value
  positivity

theorem numerator_div_denominator (d : Decimal) : (d.numerator : ℚ) / d.denominator = d.value := by
  have split : (10 : ℚ) ^ d.exponent =
      (10 : ℚ) ^ d.exponent.toNat / (10 : ℚ) ^ (-d.exponent).toNat := by
    rw [← zpow_natCast, ← zpow_natCast, ← zpow_sub₀ (by norm_num)]
    congr 1
    omega
  rw [numerator, denominator, value, split]
  push_cast
  ring

end Decimal

namespace Double

def magnitude (rank : Nat) : ℚ := units rank / unitsPerOne

/-- The number that a finite double stands for. -/
def value (d : Double) : ℚ := d.signedUnits / unitsPerOne

/-- Numbers from here on are nearer to the magnitude that would follow the greatest double than to
the greatest double. -/
def overflowBound : ℚ := 2 ^ 1024 - 2 ^ 970

/-- A finite double is the nearest one to a number: none is nearer, and if one is as near the rank
of this one is even. -/
structure NearestTo (d : Double) (q : ℚ) : Prop where
  finite : d.isFinite
  bounded : |q| < overflowBound
  nearest : ∀ other : Double, other.isFinite → |q - d.value| ≤ |q - other.value|
  even : ∀ other : Double, other.isFinite → other.value ≠ d.value →
    |q - d.value| = |q - other.value| → d.rank % 2 = 0

/-- A number lies between the midpoints to the magnitudes next to one, and strictly between them
if the rank is odd. -/
structure Within (rank : Nat) (q : ℚ) : Prop where
  lower : magnitude (rank - 1) + magnitude rank ≤ 2 * q
  upper : 2 * q ≤ magnitude rank + magnitude (rank + 1)
  strict : rank % 2 = 1 → magnitude (rank - 1) + magnitude rank < 2 * q ∧
    2 * q < magnitude rank + magnitude (rank + 1)

theorem unitsPerOne_cast_pos : (0 : ℚ) < unitsPerOne := by
  have positive : 0 < unitsPerOne := by decide +kernel
  exact_mod_cast positive

theorem magnitude_strictMono : StrictMono magnitude := by
  intro first second less
  apply div_lt_div_of_pos_right _ unitsPerOne_cast_pos
  exact_mod_cast units_strictMono less

theorem magnitude_zero : magnitude 0 = 0 := by
  rw [magnitude, show units 0 = 0 from rfl, Nat.cast_zero, zero_div]

theorem magnitude_nonneg (rank : Nat) : 0 ≤ magnitude rank := by
  rw [← magnitude_zero]
  exact magnitude_strictMono.monotone (Nat.zero_le rank)

theorem value_eq (d : Double) : d.value = signed d.negative (magnitude d.rank) := by
  unfold value signedUnits signed magnitude
  split_ifs <;> push_cast <;> ring

/-- The bound is the midpoint between the greatest finite magnitude and the one that would follow.
-/
theorem magnitude_infinityRank :
    magnitude (infinityRank - 1) + magnitude infinityRank = 2 * overflowBound := by
  have units : units (infinityRank - 1) + units infinityRank + 2 * 2 ^ 970 * unitsPerOne =
      2 * 2 ^ 1024 * unitsPerOne := by decide +kernel
  have sum := congrArg (Nat.cast (R := ℚ)) units
  simp only [Nat.cast_add, Nat.cast_mul, Nat.cast_pow, Nat.cast_ofNat] at sum
  rw [magnitude, magnitude, ← add_div, div_eq_iff unitsPerOne_cast_pos.ne', overflowBound]
  generalize (2 : ℚ) ^ 1024 = power at sum ⊢
  generalize (2 : ℚ) ^ 970 = halfUnit at sum ⊢
  linear_combination sum

/-- A ratio rounds to a rank exactly if it lies between the midpoints. -/
theorem roundsTo_iff_within {numerator denominator rank : Nat} (positive : 0 < denominator) :
    RoundsTo numerator denominator rank ↔ Within rank (numerator / denominator) := by
  have below : (0 : ℚ) < denominator := by exact_mod_cast positive
  have left (a : Nat) : (a : ℚ) / unitsPerOne ≤ 2 * (numerator / denominator) ↔
      a * denominator ≤ 2 * (numerator * unitsPerOne) := by
    rw [mul_div_assoc', div_le_div_iff₀ unitsPerOne_cast_pos below, mul_assoc]
    exact_mod_cast Iff.rfl
  have right (a : Nat) : 2 * ((numerator : ℚ) / denominator) ≤ a / unitsPerOne ↔
      2 * (numerator * unitsPerOne) ≤ a * denominator := by
    rw [mul_div_assoc', div_le_div_iff₀ below unitsPerOne_cast_pos, mul_assoc]
    exact_mod_cast Iff.rfl
  have sum (first second : Nat) :
      magnitude first + magnitude second = ((units first + units second : Nat) : ℚ) / unitsPerOne := by
    rw [magnitude, magnitude, ← add_div, Nat.cast_add]
  constructor
  · rintro ⟨lower, upper⟩
    constructor
    · rw [sum, left]
      omega
    · rw [sum, right]
      omega
    · intro odd
      rw [sum, sum, ← not_le, ← not_le, left, right]
      omega
  · rintro ⟨lower, upper, strict⟩
    rw [sum] at lower upper strict
    rw [sum, ← not_le, ← not_le, left, right] at strict
    rw [left] at lower
    rw [right] at upper
    constructor <;> rcases Nat.mod_two_eq_zero_or_one rank with even | odd
    · omega
    · have := strict odd
      omega
    · omega
    · have := strict odd
      omega

theorem Within.unique {rank other : Nat} {q : ℚ} (nonneg : 0 ≤ q) (first : Within rank q)
    (second : Within other q) : rank = other := by
  have positive : 0 < q.den := q.den_pos
  have ratio : ((q.num.toNat : Nat) : ℚ) / q.den = q := by
    rw [← Int.cast_natCast, Int.toNat_of_nonneg (Rat.num_nonneg.mpr nonneg), Rat.num_div_den]
  rw [← ratio, ← roundsTo_iff_within positive] at first second
  exact first.unique positive second

/-- What lies between two numbers that round to a rank rounds to it as well. -/
theorem Within.convex {rank : Nat} {first second q : ℚ} (one : Within rank first)
    (two : Within rank second) (above : first ≤ q) (below : q ≤ second) : Within rank q := by
  constructor
  · linarith [one.lower]
  · linarith [two.upper]
  · intro odd
    constructor
    · linarith [(one.strict odd).1]
    · linarith [(two.strict odd).2]

theorem within_magnitude (rank : Nat) : Within rank (magnitude rank) := by
  have before : magnitude (rank - 1) ≤ magnitude rank :=
    magnitude_strictMono.monotone (Nat.sub_le ..)
  have behind : magnitude rank < magnitude (rank + 1) := magnitude_strictMono (Nat.lt_succ_self _)
  constructor
  · linarith
  · linarith
  · intro odd
    have strictly : magnitude (rank - 1) < magnitude rank := magnitude_strictMono (by omega)
    constructor
    · linarith
    · linarith

/-- A number that rounds to a rank is finite exactly if it is below the bound. -/
theorem Within.finite_iff {rank : Nat} {q : ℚ} (within : Within rank q) :
    rank < infinityRank ↔ q < overflowBound := by
  have bound := magnitude_infinityRank
  constructor
  · intro finite
    have before : magnitude rank ≤ magnitude (infinityRank - 1) :=
      magnitude_strictMono.monotone (by omega)
    rcases Nat.lt_or_ge rank (infinityRank - 1) with less | last
    · have behind : magnitude (rank + 1) ≤ magnitude (infinityRank - 1) :=
        magnitude_strictMono.monotone less
      have beyond : magnitude (infinityRank - 1) < magnitude infinityRank :=
        magnitude_strictMono (by decide)
      linarith [within.upper]
    · obtain rfl : rank = infinityRank - 1 := by omega
      have upper := (within.strict (by decide)).2
      rw [show infinityRank - 1 + 1 = infinityRank from rfl] at upper
      linarith
  · intro less
    by_contra infinite
    have before : magnitude (infinityRank - 1) ≤ magnitude (rank - 1) :=
      magnitude_strictMono.monotone (by omega)
    have here : magnitude infinityRank ≤ magnitude rank :=
      magnitude_strictMono.monotone (by omega)
    linarith [within.lower]

section Distance

variable {rank other : Nat} {q : ℚ}

/-- No magnitude is nearer to a number than the one that it lies around. -/
theorem Within.distance_le (within : Within rank q) (other : Nat) :
    |q - magnitude rank| ≤ |q - magnitude other| := by
  rcases Nat.lt_trichotomy other rank with less | rfl | greater
  · have before : magnitude other ≤ magnitude (rank - 1) :=
      magnitude_strictMono.monotone (by omega)
    rw [nearer_iff_of_gt (magnitude_strictMono less)]
    linarith [within.lower]
  · exact le_refl _
  · have behind : magnitude (rank + 1) ≤ magnitude other :=
      magnitude_strictMono.monotone greater
    rw [nearer_iff_of_lt (magnitude_strictMono greater)]
    linarith [within.upper]

/-- Around an odd rank no other magnitude is as near. -/
theorem Within.distance_lt (within : Within rank q) (odd : rank % 2 = 1) (apart : other ≠ rank) :
    |q - magnitude rank| < |q - magnitude other| := by
  obtain ⟨lower, upper⟩ := within.strict odd
  rw [← not_le]
  rcases Nat.lt_or_gt_of_ne apart with less | greater
  · have before : magnitude other ≤ magnitude (rank - 1) :=
      magnitude_strictMono.monotone (by omega)
    rw [nearer_iff_of_lt (magnitude_strictMono less)]
    linarith
  · have behind : magnitude (rank + 1) ≤ magnitude other :=
      magnitude_strictMono.monotone greater
    rw [nearer_iff_of_gt (magnitude_strictMono greater)]
    linarith

/-- No finite magnitude is nearer to a number than that of a rank, and if one is as near the rank is
even. -/
structure NearestMagnitude (rank : Nat) (q : ℚ) : Prop where
  finite : rank < infinityRank
  nearest : ∀ other < infinityRank, |q - magnitude rank| ≤ |q - magnitude other|
  even : ∀ other < infinityRank, other ≠ rank →
    |q - magnitude rank| = |q - magnitude other| → rank % 2 = 0

namespace NearestMagnitude

private theorem distance_lt (here : NearestMagnitude rank q) (near : other < infinityRank)
    (apart : other ≠ rank) (odd : rank % 2 = 1) :
    |q - magnitude rank| < |q - magnitude other| := by
  refine lt_of_le_of_ne (here.nearest other near) ?_
  intro same
  have even := here.even other near apart same
  omega

theorem lower (here : NearestMagnitude rank q) (nonneg : 0 ≤ q) :
    magnitude (rank - 1) + magnitude rank ≤ 2 * q ∧
      (rank % 2 = 1 → magnitude (rank - 1) + magnitude rank < 2 * q) := by
  rcases Nat.eq_zero_or_pos rank with rfl | positive
  · rw [Nat.zero_sub, magnitude_zero]
    exact ⟨by linarith, by omega⟩
  · have finite := here.finite
    have less : magnitude (rank - 1) < magnitude rank := magnitude_strictMono (by omega)
    have near : rank - 1 < infinityRank := by omega
    constructor
    · have closer := here.nearest (rank - 1) near
      rw [nearer_iff_of_gt less] at closer
      linarith
    · intro odd
      have closer := here.distance_lt near (by omega) odd
      rw [← not_le, nearer_iff_of_lt less] at closer
      linarith

theorem upper (here : NearestMagnitude rank q) (bounded : q < overflowBound) :
    2 * q ≤ magnitude rank + magnitude (rank + 1) ∧
      (rank % 2 = 1 → 2 * q < magnitude rank + magnitude (rank + 1)) := by
  have finite := here.finite
  have less : magnitude rank < magnitude (rank + 1) := magnitude_strictMono (Nat.lt_succ_self _)
  rcases Nat.lt_or_ge (rank + 1) infinityRank with near | last
  · constructor
    · have closer := here.nearest (rank + 1) near
      rw [nearer_iff_of_lt less] at closer
      linarith
    · intro odd
      have closer := here.distance_lt near (by omega) odd
      rw [← not_le, nearer_iff_of_gt less] at closer
      linarith
  · obtain rfl : rank = infinityRank - 1 := by omega
    have bound := magnitude_infinityRank
    rw [show infinityRank - 1 + 1 = infinityRank from rfl]
    exact ⟨by linarith, fun _ => by linarith⟩

/-- A number below the bound lies around the magnitude that is nearest to it. -/
theorem within (here : NearestMagnitude rank q) (nonneg : 0 ≤ q) (bounded : q < overflowBound) :
    Within rank q := by
  obtain ⟨lower, lowerStrict⟩ := here.lower nonneg
  obtain ⟨upper, upperStrict⟩ := here.upper bounded
  exact ⟨lower, upper, fun odd => ⟨lowerStrict odd, upperStrict odd⟩⟩

end NearestMagnitude

end Distance

section Nearest

variable {d e : Double} {q : ℚ}

theorem abs_value (d : Double) : |d.value| = magnitude d.rank := by
  rw [value_eq, abs_signed, abs_of_nonneg (magnitude_nonneg _)]

theorem distance_abs_le (d : Double) (q : ℚ) : |(|q| - magnitude d.rank)| ≤ |q - d.value| := by
  rw [← abs_value]
  exact abs_abs_sub_abs_le ..

/-- Between a number and a double of the same sign there is as much as between their magnitudes. -/
theorem distance_of_sign (sign : signed d.negative |q| = q) :
    |q - d.value| = |(|q| - magnitude d.rank)| := by
  have apart : q - d.value = signed d.negative (|q| - magnitude d.rank) := by
    rw [← signed_sub_signed, sign, value_eq]
  rw [apart, abs_signed]

/-- The magnitude of a number lies around the magnitude of the double nearest to it. -/
theorem NearestTo.within (nearest : d.NearestTo q) : Within d.rank |q| := by
  have finite : d.rank < infinityRank := of_decide_eq_true nearest.finite
  have choose {other : Nat} (near : other < infinityRank) : ∃ e : Double, e.isFinite ∧
      e.rank = other ∧ |q - e.value| = |(|q| - magnitude other)| := by
    have rank : (ofRank (decide (q < 0)) other).rank = other := Nat.min_eq_left near.le
    refine ⟨ofRank (decide (q < 0)) other, ?_, rank, ?_⟩
    · exact decide_eq_true (by rwa [rank])
    · rw [distance_of_sign (signed_abs rfl), rank]
  refine NearestMagnitude.within ⟨finite, ?_, ?_⟩ (abs_nonneg q) nearest.bounded
  · intro other near
    obtain ⟨e, here, _, same⟩ := choose near
    calc |(|q| - magnitude d.rank)|
      _ ≤ |q - d.value| := distance_abs_le d q
      _ ≤ |q - e.value| := nearest.nearest e here
      _ = |(|q| - magnitude other)| := same
  · intro other near apart tie
    obtain ⟨e, here, rfl, same⟩ := choose near
    apply nearest.even e here
    · intro equal
      have magnitudes := congrArg abs equal
      rw [abs_value, abs_value] at magnitudes
      exact apart (magnitude_strictMono.injective magnitudes)
    · apply le_antisymm (nearest.nearest e here)
      rw [same, ← tie]
      exact distance_abs_le d q

/-- A finite double of the sign of a number is nearest to it if the magnitude of the number lies
around that of the double. -/
theorem nearestTo_of_within (finite : d.isFinite) (sign : signed d.negative |q| = q)
    (within : Within d.rank |q|) : d.NearestTo q := by
  constructor
  · exact finite
  · exact within.finite_iff.mp (of_decide_eq_true finite)
  · intro other _
    rw [distance_of_sign sign]
    exact (within.distance_le other.rank).trans (distance_abs_le other q)
  · intro other _ apart tie
    by_contra uneven
    have odd : d.rank % 2 = 1 := by omega
    rw [distance_of_sign sign] at tie
    by_cases same : other.rank = d.rank
    · have magnitudes : |other.value| = |d.value| := by rw [abs_value, abs_value, same]
      have opposite : other.value = -d.value := (abs_eq_abs.mp magnitudes).resolve_left apart
      have sum : q - other.value = signed d.negative (|q| - -magnitude d.rank) := by
        rw [← signed_sub_signed, sign, opposite, value_eq, signed_neg]
      have zero := within.distance_lt odd (show 0 ≠ d.rank by omega)
      rw [magnitude_zero, sub_zero, abs_abs, tie, sum, abs_signed] at zero
      have positive := magnitude_nonneg d.rank
      have further := le_abs_self (|q| - -magnitude d.rank)
      linarith
    · have further := within.distance_lt odd same
      exact absurd (tie ▸ further) (not_lt.mpr (distance_abs_le other q))

/-- A number has one nearest double of each sign at most. -/
theorem NearestTo.unique (first : d.NearestTo q) (second : e.NearestTo q)
    (sign : d.negative = e.negative) : d = e := by
  have rank : d.rank = e.rank := first.within.unique (abs_nonneg q) second.within
  cases d
  cases e
  cases sign
  cases rank
  rfl

private theorem ofRank_nearestTo {rank : Nat} (negative : Bool) (finite : rank < infinityRank)
    (nonneg : 0 ≤ q) (within : Within rank q) :
    (ofRank negative rank).NearestTo (signed negative q) := by
  have same : (ofRank negative rank).rank = rank := Nat.min_eq_left finite.le
  have size : |signed negative q| = q := by rw [abs_signed, abs_of_nonneg nonneg]
  apply nearestTo_of_within
  · exact decide_eq_true (by rwa [same])
  · rw [size]
    rfl
  · rwa [size, same]

end Nearest

section Rounding

theorem roundsTo_iff_within_value {d : Decimal} {rank : Nat} :
    d.RoundsTo rank ↔ Within rank d.value := by
  rw [Decimal.RoundsTo, roundsTo_iff_within d.denominator_pos, d.numerator_div_denominator]

private theorem nearestRankOfDecimal_lt_iff {d : Decimal} :
    nearestRankOfDecimal d < infinityRank ↔ d.value < overflowBound := by
  constructor
  · intro finite
    have rounds := (nearestRankOfDecimal_eq_iff finite).mp rfl
    exact (roundsTo_iff_within_value.mp rounds).finite_iff.mp finite
  · intro bounded
    have rounds : d.RoundsTo (nearestRank d.numerator d.denominator) :=
      roundsTo_nearestRank d.numerator d.denominator_pos
    have finite := (roundsTo_iff_within_value.mp rounds).finite_iff.mpr bounded
    rwa [(nearestRankOfDecimal_eq_iff finite).mpr rounds]

/-- A decimal below the bound is rounded to the double nearest to it, with its sign. -/
theorem ofDecimal_nearestTo {d : Decimal} (negative : Bool) (bounded : d.value < overflowBound) :
    (ofDecimal negative d).NearestTo (signed negative d.value) := by
  have finite := nearestRankOfDecimal_lt_iff.mpr bounded
  exact ofRank_nearestTo negative finite d.value_nonneg
    (roundsTo_iff_within_value.mp ((nearestRankOfDecimal_eq_iff finite).mp rfl))

/-- A decimal from the bound on is rounded to infinity. -/
theorem ofDecimal_eq_infinite {d : Decimal} (negative : Bool) (large : overflowBound ≤ d.value) :
    ofDecimal negative d = infinite negative := by
  have beyond : infinityRank ≤ nearestRankOfDecimal d := by
    rw [← Nat.not_lt, nearestRankOfDecimal_lt_iff, not_lt]
    exact large
  rw [ofDecimal, infinite, ofRank, ofRank]
  simp only [Nat.min_eq_right beyond, Nat.min_self]

private theorem nearestRank_natAbs_within (i : Int) :
    Within (nearestRank i.natAbs 1) |(i : ℚ)| := by
  have rounds := roundsTo_nearestRank i.natAbs Nat.one_pos
  rw [roundsTo_iff_within Nat.one_pos, Nat.cast_one, div_one, Nat.cast_natAbs, Int.cast_abs]
    at rounds
  exact rounds

/-- Exactly the integers from the bound on have no double. -/
theorem ofInt?_eq_none_iff {i : Int} : ofInt? i = none ↔ overflowBound ≤ |(i : ℚ)| := by
  rw [← not_lt, ← (nearestRank_natAbs_within i).finite_iff, ofInt?]
  split_ifs with finite
  · exact iff_of_false not_false (not_not.mpr finite)
  · exact iff_of_true rfl finite

/-- An integer below the bound has the double nearest to it, with its sign. -/
theorem ofInt?_nearestTo {i : Int} (bounded : |(i : ℚ)| < overflowBound) :
    ∃ d, ofInt? i = some d ∧ d.NearestTo i ∧ d.negative = decide (i < 0) := by
  have within := nearestRank_natAbs_within i
  have finite := within.finite_iff.mpr bounded
  have nearest := ofRank_nearestTo (decide (i < 0)) finite (abs_nonneg _) within
  rw [signed_abs (by simp)] at nearest
  exact ⟨_, if_pos finite, nearest, rfl⟩

end Rounding

end Double

end DrawingCode
