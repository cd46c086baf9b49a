import DrawingCode.Double.Literal
import Mathlib.Data.List.Basic

/-! # Reading numerals

What the readers of numerals do with a text whose parts are known: the digits before and behind the
point, and the exponent. The characters of numerals are no blanks and no digits of other scripts.
-/

namespace DrawingCode

namespace Double

/-- Digits only. -/
def Digits (text : List Char) : Prop := ∀ c ∈ text, c.isDigit

theorem digits_toDigits (n : Nat) : Digits (Nat.toDigits 10 n) :=
  fun _ member => Nat.isDigit_of_mem_toDigits (by decide) (by decide) member

theorem digits_replicate_zero (count : Nat) : Digits (List.replicate count '0') := by
  intro c member
  rw [List.eq_of_mem_replicate member]
  rfl

theorem Digits.append {first second : List Char} (one : Digits first) (two : Digits second) :
    Digits (first ++ second) := by
  intro c member
  rcases List.mem_append.mp member with left | right
  · exact one c left
  · exact two c right

theorem Digits.take {text : List Char} (digits : Digits text) (count : Nat) :
    Digits (text.take count) := by
  intro c member
  exact digits c (List.mem_of_mem_take member)

theorem Digits.drop {text : List Char} (digits : Digits text) (count : Nat) :
    Digits (text.drop count) := by
  intro c member
  exact digits c (List.mem_of_mem_drop member)

section Reading

variable {whole fraction rest : List Char}

private theorem dropWhile_of_takeWhile (ends : rest.takeWhile Char.isDigit = []) :
    rest.dropWhile Char.isDigit = rest := by
  have split := @List.takeWhile_append_dropWhile Char Char.isDigit rest
  rwa [ends, List.nil_append] at split

/-- A numeral with a point. -/
theorem readDecimal?_point (wholeDigits : Digits whole) (fractionDigits : Digits fraction)
    (ends : rest.takeWhile Char.isDigit = []) (nonempty : whole ≠ [] ∨ fraction ≠ []) :
    readDecimal? (whole ++ '.' :: (fraction ++ rest)) =
      (readExponent? rest).map fun exponent =>
        ⟨Nat.ofDigitChars 10 (whole ++ fraction) 0, exponent - fraction.length⟩ := by
  have notDigit : ¬ '.'.isDigit := by decide
  simp only [readDecimal?, List.takeWhile_append_of_pos wholeDigits,
    List.dropWhile_append_of_pos wholeDigits, List.takeWhile_cons_of_neg notDigit,
    List.dropWhile_cons_of_neg notDigit, List.takeWhile_append_of_pos fractionDigits,
    List.dropWhile_append_of_pos fractionDigits, ends, dropWhile_of_takeWhile ends,
    List.append_nil]
  rw [if_neg fun both => nonempty.elim (· both.1) (· both.2)]

/-- A numeral without a point. -/
theorem readDecimal?_whole (wholeDigits : Digits whole) (ends : rest.takeWhile Char.isDigit = [])
    (noPoint : rest.head? ≠ some '.') (nonempty : whole ≠ []) :
    readDecimal? (whole ++ rest) =
      (readExponent? rest).map fun exponent => ⟨Nat.ofDigitChars 10 whole 0, exponent⟩ := by
  simp only [readDecimal?, List.takeWhile_append_of_pos wholeDigits,
    List.dropWhile_append_of_pos wholeDigits, ends, dropWhile_of_takeWhile ends, List.append_nil]
  rw [if_neg (fun both => nonempty both.1)]
  cases rest with
  | nil => simp
  | cons c tail =>
    have other : c ≠ '.' := by simpa using noPoint
    simp [other]

/-- An exponent is read with its sign, if it has one. -/
theorem readExponent?_mark {mark : Char} (isMark : mark = 'e' ∨ mark = 'E') {negative : Bool}
    {digits : List Char} (split : splitSign rest = (negative, digits)) (all : Digits digits)
    (nonempty : digits ≠ []) :
    readExponent? (mark :: rest) =
      some (if negative then -(Nat.ofDigitChars 10 digits 0 : Int)
        else Nat.ofDigitChars 10 digits 0) := by
  have accepted : (mark = 'e' ∨ mark = 'E') ∧ digits ≠ [] ∧ digits.all Char.isDigit :=
    ⟨isMark, nonempty, List.all_eq_true.mpr all⟩
  simp only [readExponent?, split]
  exact if_pos accepted

end Reading

/-- The characters that texts of doubles are made of. -/
def numeralChars : List Char :=
  ['0', '1', '2', '3', '4', '5', '6', '7', '8', '9', '.', 'e', '+', '-', 'i', 'n', 'f', 'a']

/-- The characters that decimal literals are made of. -/
def literalChars : List Char :=
  ['0', '1', '2', '3', '4', '5', '6', '7', '8', '9', '.', '_', 'e', 'E', '+', '-']

theorem literalChars_not_blank : ∀ c ∈ literalChars, Text.isBlank c = false :=
  List.forall_iff_forall_mem.mp (by decide)

theorem literalChars_plain :
    ∀ c ∈ literalChars, ((Text.decimalValue? c).map Nat.digitChar).getD c = c :=
  List.forall_iff_forall_mem.mp (by decide)

private theorem mem_digitChars {c : Char} (digit : c.isDigit) :
    c ∈ ['0', '1', '2', '3', '4', '5', '6', '7', '8', '9'] := by
  have codes : ∀ n ≤ 57, 48 ≤ n →
      Char.ofNat n ∈ ['0', '1', '2', '3', '4', '5', '6', '7', '8', '9'] := by decide
  obtain ⟨lower, upper⟩ := Char.isDigit_iff_toNat.mp digit
  rw [← Char.ofNat_toNat c]
  exact codes c.toNat upper lower

theorem mem_numeralChars_of_isDigit {c : Char} (digit : c.isDigit) : c ∈ numeralChars :=
  List.mem_append_left _ (mem_digitChars digit)

theorem mem_literalChars_of_isDigit {c : Char} (digit : c.isDigit) : c ∈ literalChars :=
  List.mem_append_left _ (mem_digitChars digit)

theorem isDigit_toLower {c : Char} (digit : c.isDigit) : c.toLower.isDigit := by
  have all : ∀ c ∈ ['0', '1', '2', '3', '4', '5', '6', '7', '8', '9'], c.toLower.isDigit :=
    List.forall_iff_forall_mem.mp (by decide)
  exact all c (mem_digitChars digit)

theorem Digits.plain {text : List Char} (digits : Digits text) :
    ∀ c ∈ text, c ∈ numeralChars := by
  intro c member
  exact mem_numeralChars_of_isDigit (digits c member)

private theorem trimBlank_of_not_blank {text : List Char}
    (solid : ∀ c ∈ text, Text.isBlank c = false) :
    Text.trimBlank text = text := by
  have kept (other : List Char) (same : ∀ c ∈ other, Text.isBlank c = false) :
      other.dropWhile Text.isBlank = other := by
    cases other with
    | nil => rfl
    | cons c rest =>
      rw [List.dropWhile_cons_of_neg]
      simp [same c (List.mem_cons_self ..)]
  have backwards : ∀ c ∈ text.reverse, Text.isBlank c = false := by
    intro c member
    exact solid c (List.mem_reverse.mp member)
  rw [Text.trimBlank, kept text solid, kept _ backwards, List.reverse_reverse]

/-- A text stands for itself if no character of it is blank or a digit of another script. -/
theorem plainNumeral_eq {text : List Char} (solid : ∀ c ∈ text, Text.isBlank c = false)
    (plain : ∀ c ∈ text, ((Text.decimalValue? c).map Nat.digitChar).getD c = c) :
    plainNumeral text = text := by
  rw [plainNumeral, trimBlank_of_not_blank solid]
  exact (List.map_congr_left plain).trans (List.map_id' text)

end Double

end DrawingCode
