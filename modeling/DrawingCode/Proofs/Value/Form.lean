import DrawingCode.Proofs.Value.Conversion

/-! # The form of numerals

The numeral of a finite number is a floating constant of the generated language with a minus sign in
front of it where the number is negative. Numbers that are neither too small nor too large are
written out, with a digit before and a digit behind the point and no zeros beyond these; all others
have one digit before the point and an exponent of at least two digits.
-/

namespace DrawingCode

open Double (Digits digits_replicate_zero digits_toDigits)

/-! ## Floating constants -/

/-- Digits, at least one of them. -/
structure DigitSequence (text : List Char) : Prop where
  nonempty : text ≠ []
  digits : Digits text

/-- Digits with a point before, among or behind them. -/
inductive FractionalConstant : List Char → Prop where
  | point {whole fraction : List Char} (isWhole : Digits whole)
    (isFraction : DigitSequence fraction) : FractionalConstant (whole ++ '.' :: fraction)
  | last {whole : List Char} (isWhole : DigitSequence whole) : FractionalConstant (whole ++ ['.'])

/-- The end of a constant that is scaled by a power of ten. -/
inductive ExponentPart : List Char → Prop where
  | mk {mark : Char} {sign digits : List Char} (isMark : mark = 'e' ∨ mark = 'E')
    (isSign : sign ∈ [[], ['+'], ['-']]) (isDigits : DigitSequence digits) :
    ExponentPart (mark :: (sign ++ digits))

/-- A decimal constant of the type of doubles: it has a point or an exponent, and no suffix. -/
inductive FloatingConstant : List Char → Prop where
  | fractional {text : List Char} (isFractional : FractionalConstant text) : FloatingConstant text
  | scaled {text ending : List Char} (isFractional : FractionalConstant text)
    (isExponent : ExponentPart ending) : FloatingConstant (text ++ ending)
  | scaledWhole {text ending : List Char} (isWhole : DigitSequence text)
    (isExponent : ExponentPart ending) : FloatingConstant (text ++ ending)

/-! ## The two forms -/

/-- A numeral that is written out. A zero comes first only if it is the only digit before the point,
and last only if it is the only one behind it. -/
inductive WrittenOut : List Char → Prop where
  | mk {whole fraction : List Char} (isWhole : DigitSequence whole)
    (isFraction : DigitSequence fraction) (front : whole.head? = some '0' → whole.length = 1)
    (back : fraction.getLast? = some '0' → fraction.length = 1) :
    WrittenOut (whole ++ '.' :: fraction)

/-- A numeral with an exponent. There is a point only where digits are behind it, and the exponent
begins with a zero only if it has no more than two digits. -/
inductive Scientific : List Char → Prop where
  | mk {first sign : Char} {fraction exponent : List Char} (digit : first.isDigit)
    (nonzero : first ≠ '0') (isFraction : Digits fraction) (back : fraction.getLast? ≠ some '0')
    (isSign : sign = '+' ∨ sign = '-') (isExponent : Digits exponent)
    (width : 2 ≤ exponent.length) (front : exponent.head? = some '0' → exponent.length = 2) :
    Scientific (first :: ((if fraction = [] then [] else '.' :: fraction) ++
      'e' :: sign :: exponent))

variable {text digits : List Char}

private theorem WrittenOut.floatingConstant (writtenOut : WrittenOut text) :
    FloatingConstant text := by
  obtain ⟨isWhole, isFraction, -, -⟩ := writtenOut
  exact .fractional (.point isWhole.digits isFraction)

private theorem Scientific.floatingConstant (scientific : Scientific text) :
    FloatingConstant text := by
  obtain @⟨first, sign, fraction, exponent, digit, -, isFraction, -, isSign, isExponent, width, -⟩ :=
    scientific
  have one : DigitSequence [first] := ⟨List.cons_ne_nil _ _, by simpa [Digits] using digit⟩
  have many : DigitSequence exponent :=
    ⟨List.ne_nil_of_length_pos (Nat.lt_of_lt_of_le Nat.two_pos width), isExponent⟩
  have ending : ExponentPart ('e' :: ([sign] ++ exponent)) := by
    refine .mk (.inl rfl) ?_ many
    rcases isSign with rfl | rfl <;> decide
  split_ifs with empty
  · exact .scaledWhole one ending
  · rw [← List.cons_append]
    exact .scaled (.point one.digits ⟨empty, isFraction⟩) ending

private theorem WrittenOut.letter_not_mem (writtenOut : WrittenOut text) : 'e' ∉ text := by
  obtain ⟨isWhole, isFraction, -, -⟩ := writtenOut
  intro member
  rcases List.mem_append.mp member with before | pointed
  · cases isWhole.digits 'e' before
  · rcases List.mem_cons.mp pointed with point | behind
    · cases point
    · cases isFraction.digits 'e' behind

theorem WrittenOut.point_mem (writtenOut : WrittenOut text) : '.' ∈ text := by
  obtain ⟨⟩ := writtenOut
  simp

theorem Scientific.letter_mem (scientific : Scientific text) : 'e' ∈ text := by
  obtain ⟨⟩ := scientific
  simp

/-- Only one of the forms has a letter in it. -/
theorem WrittenOut.not_scientific (writtenOut : WrittenOut text) : ¬ Scientific text :=
  fun scientific => writtenOut.letter_not_mem scientific.letter_mem

namespace Decimal

/-- Digits without zeros at their ends get zeros only between themselves and the point, and one
where there is no other digit on a side of the point. -/
theorem writtenOut_plainText (isDigits : DigitSequence digits) (first : digits.head? ≠ some '0')
    (last : digits.getLast? ≠ some '0') (place : Int) : WrittenOut (plainText digits place) := by
  have zero : DigitSequence ['0'] := ⟨List.cons_ne_nil _ _, digits_replicate_zero 1⟩
  have length := List.length_pos_iff.mpr isDigits.nonempty
  rw [plainText]
  split_ifs with small short
  · have zeros := digits_replicate_zero (-place - 1).toNat
    refine @WrittenOut.mk ['0'] _ zero ⟨by simp [isDigits.nonempty], zeros.append isDigits.digits⟩
      (fun _ => rfl) fun back => ?_
    rw [List.getLast?_append_of_ne_nil _ isDigits.nonempty] at back
    exact absurd back last
  · have zeros := digits_replicate_zero (place.toNat + 1 - digits.length)
    refine .mk ⟨by simp [isDigits.nonempty], isDigits.digits.append zeros⟩ zero (fun front => ?_)
      fun _ => rfl
    rw [List.head?_append_of_ne_nil _ isDigits.nonempty] at front
    exact absurd front first
  · have behind : digits.drop (place.toNat + 1) ≠ [] := by
      rw [ne_eq, List.drop_eq_nil_iff]
      omega
    refine .mk ⟨by simp [isDigits.nonempty], isDigits.digits.take _⟩
      ⟨behind, isDigits.digits.drop _⟩ (fun front => ?_) fun back => ?_
    · rw [List.head?_take, if_neg (Nat.succ_ne_zero _)] at front
      exact absurd front first
    · rw [List.getLast?_drop, if_neg short] at back
      exact absurd back last

/-- An exponent of one digit gets a zero in front of it, and other exponents do not begin with
one. -/
theorem exponentText_two (exponent : Nat) : Digits (exponentText 2 exponent) ∧
    2 ≤ (exponentText 2 exponent).length ∧
      ((exponentText 2 exponent).head? = some '0' → (exponentText 2 exponent).length = 2) := by
  have digits := digits_toDigits exponent
  have some := @Nat.length_toDigits_pos 10 exponent
  refine ⟨(digits_replicate_zero _).append digits, ?_, fun front => ?_⟩
  · rw [exponentText, List.length_append, List.length_replicate]
    omega
  · by_contra long
    rw [exponentText, List.length_append, List.length_replicate] at long
    have many : 2 - (Nat.toDigits 10 exponent).length = 0 := by omega
    have positive : 0 < exponent := by
      by_contra zero
      obtain rfl : exponent = 0 := by omega
      exact long rfl
    rw [exponentText, many, List.replicate_zero, List.nil_append] at front
    exact head?_toDigits positive front

private theorem scientific_scaledText (isDigits : DigitSequence digits)
    (first : digits.head? ≠ some '0')
    (last : digits.getLast? ≠ some '0') (place : Int) :
    Scientific (scaledText .code digits place) := by
  obtain ⟨c, rest, rfl⟩ := List.exists_cons_of_ne_nil isDigits.nonempty
  obtain ⟨digit, others⟩ := List.forall_mem_cons.mp isDigits.digits
  obtain ⟨isExponent, width, front⟩ := exponentText_two place.natAbs
  have nonzero : c ≠ '0' := by simpa using first
  have back : rest.getLast? ≠ some '0' := by
    cases rest with
    | nil => simp
    | cons next rest => rwa [List.getLast?_cons_cons] at last
  have isSign : (if place < 0 then '-' else '+') = '+' ∨ (if place < 0 then '-' else '+') = '-' := by
    split_ifs <;> simp
  have single : (c :: rest).length ≤ 1 ↔ rest = [] := by simp
  rw [scaledText]
  simp only [single]
  exact .mk digit nonzero others back isSign isExponent width front

end Decimal

/-! ## Which form a number has -/

/-- Zero, and the sizes of numbers that are written out. -/
def IsModerate (q : ℚ) : Prop := q = 0 ∨ 10 ^ (-4 : ℤ) ≤ q ∧ q < 10 ^ (16 : ℤ)

private theorem isModerate_iff_of_place {q : ℚ} {place : Int} (lower : 10 ^ place ≤ q)
    (upper : q < 10 ^ (place + 1)) : IsModerate q ↔ -4 ≤ place ∧ place < 16 := by
  have positive : q ≠ 0 := ((Double.power_pos place).trans_le lower).ne'
  have grows {few many : Int} (less : few ≤ many) : (10 : ℚ) ^ few ≤ 10 ^ many :=
    zpow_le_zpow_right₀ (by norm_num) less
  rw [IsModerate, or_iff_right positive]
  constructor
  · rintro ⟨least, most⟩
    constructor
    · by_contra small
      exact absurd (upper.trans_le (grows (show place + 1 ≤ -4 by omega))) (not_lt.mpr least)
    · by_contra large
      exact absurd ((grows (show 16 ≤ place by omega)).trans lower) (not_le.mpr most)
  · rintro ⟨small, large⟩
    exact ⟨(grows small).trans lower, upper.trans_le (grows (by omega))⟩

namespace Decimal

/-- The first digit of a decimal stands at the power of ten that the number reaches. -/
theorem value_between {d : Decimal} (positive : 0 < d.digits) :
    10 ^ (d.exponent + (Nat.toDigits 10 d.digits).length - 1) ≤ d.value ∧
      d.value < 10 ^ (d.exponent + (Nat.toDigits 10 d.digits).length - 1 + 1) := by
  have length := @Nat.length_toDigits_pos 10 d.digits
  have least := Double.pow_length_toDigits_le positive
  have most := (Nat.length_toDigits_le_iff (by decide) length).mp (le_refl _)
  have power := Double.power_pos d.exponent
  generalize (Nat.toDigits 10 d.digits).length = count at *
  constructor
  · rw [← Double.power_mul_power (count - 1)
      (show d.exponent + (count - 1 : Nat) = d.exponent + count - 1 by omega), value,
      mul_le_mul_iff_left₀ power]
    exact_mod_cast least
  · rw [← Double.power_mul_power count (sub_add_cancel ..).symm, value, mul_lt_mul_iff_left₀ power]
    exact_mod_cast most

/-- The text of a decimal without zeros at its end is written out exactly if the number is
moderate. -/
theorem text_form {d : Decimal} (last : d.digits % 10 ≠ 0) :
    IsModerate d.value ∧ WrittenOut (d.text .code) ∨
      ¬ IsModerate d.value ∧ Scientific (d.text .code) := by
  have positive : 0 < d.digits := by omega
  have isDigits : DigitSequence (Nat.toDigits 10 d.digits) :=
    ⟨Nat.toDigits_ne_nil, digits_toDigits _⟩
  have front := head?_toDigits positive
  have back : (Nat.toDigits 10 d.digits).getLast? ≠ some '0' := by
    rw [getLast?_toDigits, ne_eq, Option.some_inj]
    exact digitChar_ne_zero (by omega) (Nat.mod_lt _ (by decide))
  obtain ⟨lower, upper⟩ := value_between positive
  rw [isModerate_iff_of_place lower upper, text]
  split_ifs with moderate
  · exact .inl ⟨moderate, writtenOut_plainText isDigits front back _⟩
  · exact .inr ⟨moderate, scientific_scaledText isDigits front back _⟩

end Decimal

namespace Double

/-- A limit that is itself the shortest decimal of the magnitude which it rounds to, and not above
this magnitude, lies between no magnitude and its shortest decimal. -/
theorem le_shortest_iff {rank bound : Nat} {limit : Decimal} (positive : 0 < rank)
    (finite : rank < infinityRank) (rounds : limit.RoundsTo bound) (exactly : shortest bound = limit)
    (least : limit.value ≤ magnitude bound) :
    limit.value ≤ (shortest rank).value ↔ limit.value ≤ magnitude rank := by
  have within : Within rank (shortest rank).value :=
    roundsTo_iff_within_value.mp (shortest_roundsTo positive finite)
  have same (between : Within rank limit.value) : rank = bound :=
    between.unique limit.value_nonneg (roundsTo_iff_within_value.mp rounds)
  constructor
  · intro above
    by_contra below
    obtain rfl := same ((within_magnitude rank).convex within (not_le.mp below).le above)
    exact below least
  · intro above
    by_contra below
    obtain rfl := same (within.convex (within_magnitude rank) (not_le.mp below).le above)
    exact below (exactly ▸ le_refl _)

private theorem value_le_magnitude_iff {d : Decimal} {rank : Nat} :
    d.value ≤ magnitude rank ↔ d.numerator * unitsPerOne ≤ units rank * d.denominator := by
  have denominator : (0 : ℚ) < d.denominator := Nat.cast_pos.mpr (Nat.pow_pos (by decide))
  rw [← d.numerator_div_denominator, magnitude, div_le_div_iff₀ denominator unitsPerOne_cast_pos]
  exact_mod_cast Iff.rfl

private theorem power_le_shortest_iff {rank : Nat} (positive : 0 < rank)
    (finite : rank < infinityRank)
    (bound : Nat) {place : Int} (some : 0 < bound) (small : bound < infinityRank)
    (exactly : shortest bound = ⟨1, place⟩)
    (least : Decimal.numerator ⟨1, place⟩ * unitsPerOne ≤
      units bound * Decimal.denominator ⟨1, place⟩) :
    10 ^ place ≤ (shortest rank).value ↔ 10 ^ place ≤ magnitude rank := by
  have one : Decimal.value ⟨1, place⟩ = 10 ^ place := by rw [Decimal.value, Nat.cast_one, one_mul]
  rw [← one]
  exact le_shortest_iff positive finite (exactly ▸ shortest_roundsTo some small) exactly
    (value_le_magnitude_iff.mpr least)

/-- The shortest decimal of a magnitude is on the same side of the limits between the two forms. -/
theorem isModerate_shortest_iff {rank : Nat} (positive : 0 < rank) (finite : rank < infinityRank) :
    IsModerate (shortest rank).value ↔ IsModerate (magnitude rank) := by
  have lower : 10 ^ (-4 : ℤ) ≤ (shortest rank).value ↔ 10 ^ (-4 : ℤ) ≤ magnitude rank :=
    power_le_shortest_iff positive finite 0x3f1a36e2eb1c432d (by decide) (by decide)
      (by decide +kernel) (by decide +kernel)
  have upper : 10 ^ (16 : ℤ) ≤ (shortest rank).value ↔ 10 ^ (16 : ℤ) ≤ magnitude rank :=
    power_le_shortest_iff positive finite 0x4341c37937e08000 (by decide) (by decide)
      (by decide +kernel) (by decide +kernel)
  have shown : (shortest rank).value ≠ 0 := by
    have digits : (shortest rank).digits ≠ 0 := by
      have := digits_shortest_mod positive finite
      omega
    exact mul_ne_zero (Nat.cast_ne_zero.mpr digits) (power_pos _).ne'
  have size : magnitude rank ≠ 0 := by
    have := magnitude_strictMono positive
    rw [magnitude_zero] at this
    exact this.ne'
  rw [IsModerate, IsModerate, or_iff_right shown, or_iff_right size, lower,
    lt_iff_lt_of_le_iff_le upper]

/-- Zero and moderate magnitudes are written out, and all others have exponents. -/
theorem magnitudeText_form {rank : Nat} (finite : rank < infinityRank) :
    IsModerate (magnitude rank) ∧ WrittenOut (magnitudeText .code rank) ∨
      ¬ IsModerate (magnitude rank) ∧ Scientific (magnitudeText .code rank) := by
  rw [magnitudeText, if_neg finite.ne]
  rcases Nat.eq_zero_or_pos rank with rfl | positive
  · have zero : DigitSequence ['0'] := ⟨List.cons_ne_nil _ _, digits_replicate_zero 1⟩
    exact .inl ⟨.inl magnitude_zero, .mk zero zero (fun _ => rfl) fun _ => rfl⟩
  · rw [if_neg positive.ne', ← isModerate_shortest_iff positive finite]
    exact Decimal.text_form (digits_shortest_mod positive finite)

end Double

namespace Value

open Double

/-- The numeral of a value is a word if the value stands for no finite number. All other numerals
are floating constants, behind a minus sign for negative numbers, which round to the double that the
value stands for. Exactly zero and moderate numbers are written out, and exactly the others have an
exponent. -/
theorem numeral_form {v : Value} {t : String} (numeral : v.numeral = .ok t) :
    ∃ d, v.toDouble = .ok d ∧ (d.isNaN → t = "nan") ∧
      (¬ d.isNaN → ¬ d.isFinite → t = if d.negative then "-inf" else "inf") ∧
      (d.isFinite → ∃ l : Literal, t = l.text ∧
        l.sign.text = (if d.negative then ['-'] else []) ∧
        FloatingConstant (l.unsigned DigitRow.text) ∧ d.NearestTo l.value ∧
        (WrittenOut (l.unsigned DigitRow.text) ↔ IsModerate l.size) ∧
        (Scientific (l.unsigned DigitRow.text) ↔ ¬ IsModerate l.size) ∧
        (IsModerate l.size ↔ IsModerate |d.value|)) := by
  obtain ⟨d, converted, rfl⟩ := numeral_eq_ok_iff.mp numeral
  refine ⟨d, converted, text_of_isNaN, fun number infinite => ?_, fun isFinite => ?_⟩
  · have rank : d.rank = infinityRank := by
      simp only [isNaN, isFinite, decide_eq_true_eq] at number infinite
      omega
    rw [← String.toList_inj, toList_text_of_number rank.le, rank]
    cases d.negative <;> rfl
  · have finite : d.rank < infinityRank := of_decide_eq_true isFinite
    obtain ⟨sign, negative, minus⟩ := WrittenSign.exists_of_negative d.negative
    obtain ⟨l, signed, text, within, zero, exactly⟩ := exists_literal_magnitudeText sign finite
    have same : d.text = l.text := by
      rw [← String.toList_inj, toList_text_of_number finite.le, Literal.text, String.toList_ofList,
        Literal.chars, signed, text, minus]
    have sizes : IsModerate l.size ↔ IsModerate |d.value| := by
      rw [abs_value]
      by_cases none : d.rank = 0
      · rw [none, magnitude_zero, zero none]
      · rw [(exactly none).1, isModerate_shortest_iff (Nat.pos_of_ne_zero none) finite]
    have form := magnitudeText_form finite
    rw [← text, ← abs_value, ← sizes] at form
    refine ⟨l, same, signed ▸ minus, ?_, nearestTo_literal isFinite (signed ▸ negative) within, ?_,
      ?_, sizes⟩
    · exact form.elim (·.2.floatingConstant) (·.2.floatingConstant)
    · rcases form with ⟨moderate, writtenOut⟩ | ⟨extreme, scientific⟩
      · exact iff_of_true writtenOut moderate
      · exact iff_of_false (fun writtenOut => writtenOut.not_scientific scientific) extreme
    · rcases form with ⟨moderate, writtenOut⟩ | ⟨extreme, scientific⟩
      · exact iff_of_false writtenOut.not_scientific (not_not.mpr moderate)
      · exact iff_of_true scientific extreme

/-- The greatest double below one ten-thousandth has an exponent. -/
theorem numeral_form_small :
    (double (.ofBits 0x3f1a36e2eb1c432c)).numeral = .ok "9.999999999999999e-05" ∧
      ∃ l : Literal, l.text = "9.999999999999999e-05" ∧ ¬ IsModerate l.size ∧
        Scientific (l.unsigned DigitRow.text) := by
  have numeral : (double (.ofBits 0x3f1a36e2eb1c432c)).numeral = .ok "9.999999999999999e-05" := by
    decide +kernel
  obtain ⟨d, converted, -, -, form⟩ := numeral_form numeral
  cases converted
  obtain ⟨l, text, -, -, -, -, scientific, sizes⟩ := form (by decide)
  have less : ¬ Decimal.value ⟨1, -4⟩ ≤ magnitude 0x3f1a36e2eb1c432c := by
    rw [value_le_magnitude_iff]
    decide +kernel
  have extreme : ¬ IsModerate l.size := by
    rw [sizes, abs_value]
    rintro (zero | ⟨least, -⟩)
    · have positive : magnitude 0 < magnitude 0x3f1a36e2eb1c432c := magnitude_strictMono (by decide)
      exact positive.ne' (zero.trans magnitude_zero.symm)
    · exact less (by rwa [Decimal.value, Nat.cast_one, one_mul])
  exact ⟨numeral, l, text.symm, extreme, scientific.mpr extreme⟩

end Value

end DrawingCode
