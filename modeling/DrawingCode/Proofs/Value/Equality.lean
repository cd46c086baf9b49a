import DrawingCode.Proofs.Double.Nearest
import DrawingCode.Value.Basic
import DrawingCode.Value.Equality

/-! # Equal values stand for one double

Numbers are compared exactly and rounded only when code is generated. An integer that is equal to a
double is that double without rounding, so equal values stand for the same double or are refused for
the same reason. Only the two zeros are equal and stand for different doubles.
-/

namespace DrawingCode

theorem Amount.equal_iff {a b : Amount} : a.equal b ↔ a = b ∧ a ≠ .nan := by
  simp [equal]

namespace Double

private theorem unitsPerOne_ne_zero : (unitsPerOne : Int) ≠ 0 := by
  decide +kernel

private theorem value_of_signedUnits {d : Double} {i : Int}
    (same : d.signedUnits = i * unitsPerOne) :
    d.value = i := by
  rw [value, same, Int.cast_mul, Int.cast_natCast, mul_div_cancel_right₀ _ unitsPerOne_cast_pos.ne']

/-- The sign of a double can be told from its value, unless it is negative zero. -/
theorem negative_eq_of_ne_zero {d : Double} (nonzero : d ≠ zero true) :
    d.negative = decide (d.value < 0) := by
  rw [value_eq]
  obtain ⟨negative, rank, bound⟩ := d
  cases negative with
  | false => simp [signed, magnitude_nonneg]
  | true =>
    have positive : rank ≠ 0 := by
      rintro rfl
      exact nonzero rfl
    have above : magnitude 0 < magnitude rank := magnitude_strictMono (Nat.pos_of_ne_zero positive)
    rw [magnitude_zero] at above
    simp [signed, above]

/-- Doubles of the same value are the same, unless one of them alone is negative zero. -/
theorem eq_of_value {d e : Double} (same : d.value = e.value)
    (zeros : d = zero true ↔ e = zero true) : d = e := by
  by_cases negativeZero : d = zero true
  · rw [negativeZero, zeros.mp negativeZero]
  · have sign : d.negative = e.negative := by
      rw [negative_eq_of_ne_zero negativeZero, same,
        negative_eq_of_ne_zero (mt zeros.mpr negativeZero)]
    have rank : d.rank = e.rank := by
      apply magnitude_strictMono.injective
      rw [← abs_value, same, abs_value]
    cases d
    cases e
    cases sign
    cases rank
    rfl

/-- A finite double that is an integer is the double of this integer, unless it is negative
zero. -/
theorem ofInt?_of_value {d : Double} {i : Int} (finite : d.isFinite) (value : d.value = i)
    (nonzero : d ≠ zero true) : ofInt? i = some d := by
  have size : |(i : ℚ)| = magnitude d.rank := by rw [← value, abs_value]
  have within : Within d.rank |(i : ℚ)| := size ▸ within_magnitude d.rank
  have signed : signed d.negative |(i : ℚ)| = i := by rw [size, ← value_eq, value]
  have bounded := within.finite_iff.mp (of_decide_eq_true finite)
  obtain ⟨e, read, nearest, sign⟩ := ofInt?_nearestTo bounded
  have negative : d.negative = e.negative := by
    rw [negative_eq_of_ne_zero nonzero, value, sign]
    simp
  rw [read, (nearestTo_of_within finite signed within).unique nearest negative]

private theorem amount_eq_units_iff {d : Double} {count : Int} :
    d.amount = .units count ↔ d.isFinite ∧ d.signedUnits = count := by
  unfold amount
  have ordered (number : d.isNaN) : ¬ d.isFinite := by
    simp only [isNaN, isFinite, decide_eq_true_eq] at number ⊢
    omega
  split_ifs with number finite
  · simp [ordered number]
  · simp [finite]
  · simp [finite]

private theorem amount_eq_infinite_iff {d : Double} {negative : Bool} :
    d.amount = .infinite negative ↔ d = infinite negative := by
  unfold amount
  constructor
  · intro same
    split_ifs at same with number finite
    obtain rfl := Amount.infinite.inj same
    have rank : d.rank = infinityRank := by
      simp only [isNaN, isFinite, decide_eq_true_eq] at number finite
      omega
    cases d
    cases rank
    rfl
  · rintro rfl
    rfl

/-- Doubles that are the same number are the same, unless one of them alone is negative zero. -/
theorem eq_of_amount {d e : Double} (same : d.amount = e.amount) (number : d.amount ≠ .nan)
    (zeros : d = zero true ↔ e = zero true) : d = e := by
  cases amount : d.amount with
  | nan => exact absurd amount number
  | units count =>
    obtain ⟨_, first⟩ := amount_eq_units_iff.mp amount
    obtain ⟨_, second⟩ := amount_eq_units_iff.mp (same.symm.trans amount)
    exact eq_of_value (by rw [value, value, first, second]) zeros
  | infinite negative =>
    have first := amount_eq_infinite_iff.mp amount
    have second := amount_eq_infinite_iff.mp (same.symm.trans amount)
    rw [first, second]

end Double

namespace Value

/-- Negative zero. -/
def isNegativeZero : Value → Bool
  | double d => d = .zero true
  | _ => false

/-- A zero of any kind of number. -/
def isZero (v : Value) : Bool := v.amount? = some (.units 0)

/-- Whether one of two values is negative zero and the other one is another zero. -/
def zerosDiffer (v w : Value) : Bool :=
  v.isNegativeZero && w.isZero && !w.isNegativeZero ||
    w.isNegativeZero && v.isZero && !v.isNegativeZero

/-- Numbers are doubles, or stand for the same as some integer. -/
theorem exists_double_or_int {v : Value} {a : Amount} (number : v.amount? = some a) :
    (∃ d, v = double d) ∨ ∃ i, a = .units (i * Double.unitsPerOne) ∧
      v.toDouble = (int i).toDouble ∧ v.isNegativeZero = false := by
  cases v with
  | double d => exact .inl ⟨d, rfl⟩
  | int i => exact .inr ⟨i, (Option.some.inj number).symm, rfl, rfl⟩
  | bool b =>
    have amount := (Option.some.inj number).symm
    cases b with
    | false => exact .inr ⟨0, by rwa [Int.zero_mul], by decide +kernel, rfl⟩
    | true => exact .inr ⟨1, by rwa [Int.one_mul], by decide +kernel, rfl⟩
  | _ => cases number

private theorem isNegativeZero_iff {v : Value} : v.isNegativeZero ↔ v = double (.zero true) := by
  cases v with
  | double d => simp [isNegativeZero]
  | _ => simp [isNegativeZero]

/-- A number that is equal to negative zero is negative zero, if it is no other zero. -/
theorem isNegativeZero_of_zerosDiffer {v w : Value} (same : v.amount? = w.amount?)
    (zeros : v.zerosDiffer w = false) (negative : v.isNegativeZero) : w.isNegativeZero := by
  have zero : w.isZero := by
    rw [isZero, ← same, isNegativeZero_iff.mp negative]
    rfl
  by_contra other
  rw [Bool.not_eq_true] at other
  rw [zerosDiffer, negative, zero, other] at zeros
  cases zeros

private theorem zerosDiffer_comm (v w : Value) :
    v.zerosDiffer w = w.zerosDiffer v := Bool.or_comm ..

/-- An integer that is equal to a double converts to it, unless that is negative zero. -/
theorem toDouble_int_of_amount {d : Double} {i : Int}
    (same : d.amount = .units (i * Double.unitsPerOne)) (nonzero : d ≠ .zero true) :
    (int i).toDouble = .ok d := by
  obtain ⟨finite, units⟩ := Double.amount_eq_units_iff.mp same
  rw [toDouble, Double.ofInt?_of_value finite (Double.value_of_signedUnits units) nonzero,
    Option.elim_some]

/-- Equal numbers convert to the same double, unless one of them alone is negative zero. -/
theorem toDouble_eq_of_amount {v w : Value} {a : Amount} (number : v.amount? = some a)
    (other : w.amount? = some a) (counts : a ≠ .nan)
    (zeros : v.isNegativeZero ↔ w.isNegativeZero) : v.toDouble = w.toDouble := by
  have nonzero {d : Double} (negative : (double d).isNegativeZero = false) : d ≠ .zero true := by
    rintro rfl
    cases negative
  rcases exists_double_or_int number with ⟨d, rfl⟩ | ⟨i, rfl, first, whole⟩
  · obtain rfl := Option.some.inj number
    rcases exists_double_or_int other with ⟨e, rfl⟩ | ⟨j, same, second, whole⟩
    · rw [isNegativeZero_iff, isNegativeZero_iff, double.injEq, double.injEq] at zeros
      rw [Double.eq_of_amount (Option.some.inj other).symm counts zeros]
    · rw [whole, iff_false_right Bool.false_ne_true, Bool.not_eq_true] at zeros
      rw [second, toDouble_int_of_amount same (nonzero zeros)]
      rfl
  · rcases exists_double_or_int other with ⟨e, rfl⟩ | ⟨j, same, second, _⟩
    · rw [whole, iff_false_left Bool.false_ne_true, Bool.not_eq_true] at zeros
      rw [first, toDouble_int_of_amount (Option.some.inj other) (nonzero zeros)]
      rfl
    · have integers := Int.eq_of_mul_eq_mul_right Double.unitsPerOne_ne_zero (Amount.units.inj same)
      rw [first, second, integers]

/-- What is equal to a number is the same number. -/
theorem amount?_of_equal {v w : Value} {a : Amount} (number : v.amount? = some a)
    (same : v.equal w) : w.amount? = some a ∧ a ≠ .nan := by
  have any : w.amount?.any (a.equal ·) := by
    cases v with
    | bool _ | int _ | double _ =>
      rw [equal] at same
      exact Option.some.inj number ▸ same
    | _ => cases number
  obtain ⟨b, other, equal⟩ := Option.any_eq_true _ _ |>.mp any
  obtain ⟨rfl, counts⟩ := Amount.equal_iff.mp equal
  exact ⟨other, counts⟩

/-- What is equal to a value that is no number is refused for the same reason, or is the same
text. -/
theorem toDouble_eq_of_amount?_eq_none {v w : Value} (noNumber : v.amount? = none)
    (same : v.equal w) : v.toDouble = w.toDouble := by
  cases v with
  | bool _ | int _ | double _ => cases noNumber
  | null =>
    cases w with
    | null => rfl
    | _ => simp [equal] at same
  | text s =>
    cases w with
    | text t =>
      simp only [equal, beq_iff_eq] at same
      rw [same]
    | _ => simp [equal] at same
  | list _ =>
    cases w with
    | list _ => rfl
    | _ => simp [equal] at same
  | dict _ =>
    cases w with
    | dict _ => rfl
    | _ => simp [equal] at same

/-- Equal values convert to the same double or are refused for the same reason, unless they are
zeros and one of them alone is negative. -/
theorem toDouble_eq_of_equal {v w : Value} (same : v.equal w) (zeros : v.zerosDiffer w = false) :
    v.toDouble = w.toDouble := by
  cases number : v.amount? with
  | none => exact toDouble_eq_of_amount?_eq_none number same
  | some a =>
    obtain ⟨other, counts⟩ := amount?_of_equal number same
    have amounts : v.amount? = w.amount? := number.trans other.symm
    exact toDouble_eq_of_amount number other counts
      ⟨isNegativeZero_of_zerosDiffer amounts zeros,
        isNegativeZero_of_zerosDiffer amounts.symm (zerosDiffer_comm v w ▸ zeros)⟩

end Value

end DrawingCode
