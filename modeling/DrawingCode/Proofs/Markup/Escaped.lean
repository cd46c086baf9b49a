import DrawingCode.Markup.Scalar.Quoted
import DrawingCode.Proofs.Markup.PlainWord
import DrawingCode.Proofs.Markup.Reading
import DrawingCode.Proofs.Text.Quoted

/-! # Texts in escapes

Between double quotes every character can be written by its code. A text that is written so
throughout is read back whatever it is made of: what stands for it are only letters, digits and
backslashes, so it holds no closing quote, no gap and no character that may not stand in a document.
-/

namespace DrawingCode.Markup

open Text (CodePoint hexDigits isWordChar)

variable {c : Char} {text : List Char}

/-! ## Hexadecimal digits -/

/-- Capital digits have the same values. -/
theorem hexValue?_toUpper (c : Char) : hexValue? c.toUpper = hexValue? c := by
  by_cases small : 'a'.val ≤ c.val ∧ c.val ≤ 'z'.val
  · have letters : ∀ n < 26, hexValue? (Char.ofNat (97 + n)).toUpper =
        hexValue? (Char.ofNat (97 + n)) := by decide
    have range : 97 ≤ c.toNat ∧ c.toNat ≤ 122 := small
    have letter := letters (c.toNat - 97) (by omega)
    rwa [show 97 + (c.toNat - 97) = c.toNat by omega, Char.ofNat_toNat] at letter
  · exact congrArg hexValue? (dif_neg small)

private theorem hexNumber?_map_toUpper (digits : List Char) :
    hexNumber? (digits.map Char.toUpper) = hexNumber? digits := by
  simp only [hexNumber?, List.foldlM_map, hexValue?_toUpper]

private theorem isWordChar_of_isAlpha (letter : c.isAlpha) : isWordChar c := by
  simp [isWordChar, Char.isAlphanum, letter]

private theorem isWordChar_of_hexValue? (digit : (hexValue? c).isSome) : isWordChar c := by
  unfold hexValue? at digit
  split at digit
  · next isDigit => simp [isWordChar, Char.isAlphanum, isDigit]
  · split at digit
    · next range =>
      have isLower : c.isLower :=
        Bool.and_eq_true_iff.mpr ⟨decide_eq_true range.1,
          decide_eq_true (Char.le_trans range.2 (show 'f' ≤ 'z' by decide))⟩
      exact isWordChar_of_isAlpha (Bool.or_eq_true_iff.mpr (.inr isLower))
    · split at digit
      · next range =>
        have isUpper : c.isUpper :=
          decide_eq_true ⟨range.1, Char.le_trans range.2 (show 'F' ≤ 'Z' by decide)⟩
        exact isWordChar_of_isAlpha (Bool.or_eq_true_iff.mpr (.inl isUpper))
      · cases digit

namespace Quoted

/-- The code of a character in eight hexadecimal digits, small ones or capitals. -/
def code (capital : Bool) (c : Char) : List Char :=
  (hexDigits 8 c.toNat).map (if capital then Char.toUpper else id)

def escape (capital : Bool) (c : Char) : List Char := '\\' :: 'U' :: code capital c

private theorem hexNumber?_code (capital : Bool) (c : Char) :
    hexNumber? (code capital c) = some c.toNat := by
  cases capital with
  | true => exact (hexNumber?_map_toUpper _).trans (Text.hexNumber?_hexDigits 8 c.toNat)
  | false => exact (congrArg hexNumber? (List.map_id _)).trans (Text.hexNumber?_hexDigits 8 c.toNat)

private theorem length_code (capital : Bool) (c : Char) : (code capital c).length = 8 := by
  rw [code, List.length_map, Text.length_hexDigits (by decide) (Text.toNat_lt c)]

private theorem codePoint_code (capital : Bool) (c : Char) :
    codePoint (code capital c) = .ok (.char c) := by
  have valid : c.toNat < 0xd800 ∨ 0xdfff < c.toNat ∧ c.toNat < 0x110000 := c.valid
  rw [codePoint, hexNumber?_code]
  dsimp only
  rw [if_neg (by omega), if_neg (by omega), if_neg (by omega), Char.ofNat_toNat]

/-- The escape of a character is read as the character. -/
theorem doubleRun_escape (capital : Bool) (c : Char) (rest : List Char) :
    doubleRun none (escape capital c ++ rest) = prepend (.char c) (doubleRun none rest) := by
  have length := length_code capital c
  have reads := codePoint_code capital c
  rw [escape]
  generalize code capital c = digits at length reads
  match digits, length with
  | [_, _, _, _, _, _, _, _], _ =>
    change (do prepend (← codePoint _) (doubleRun none rest)) = _
    rw [reads]
    rfl

/-- A text in escapes is read up to the closing quote. -/
theorem doubleRun_escapes (capital : Bool) (text rest : List Char) :
    doubleRun none (text.flatMap (escape capital) ++ '"' :: rest) =
      .ok (CodePoint.ofChars text, '"' :: rest) := by
  induction text with
  | nil => rfl
  | cons c text ih =>
    rw [List.flatMap_cons, List.append_assoc, doubleRun_escape, ih]
    rfl

theorem read_escapes (capital : Bool) (text rest : List Char) :
    read none true (text.flatMap (escape capital) ++ '"' :: rest) =
      .ok (CodePoint.ofChars text, rest) := by
  rw [read, readRuns, if_pos rfl, doubleRun_escapes]
  rfl

/-- Besides backslashes there are only letters and digits in a text in escapes. -/
theorem escapes_within {capital : Bool} (mem : c ∈ text.flatMap (escape capital)) :
    c = '\\' ∨ isWordChar c := by
  obtain ⟨escaped, _, mem⟩ := List.mem_flatMap.mp mem
  obtain rfl | rfl | digit := by simpa [escape] using mem
  · exact .inl rfl
  · exact .inr rfl
  · have number := hexNumber?_code capital escaped
    exact .inr (isWordChar_of_hexValue? (isSome_hexValue?_of_mem number c digit))

end Quoted

end DrawingCode.Markup
