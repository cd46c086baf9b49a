import DrawingCode.Markup.Character
import DrawingCode.Text.Quoted

/-! # Hexadecimal digits

A number is read back from its hexadecimal digits, whatever the width to which they are filled up.
-/

namespace DrawingCode.Text

-- Powers of natural numbers are those of the core library, whatever other instances are in scope.
attribute [local instance (2000)] instPowNat

open Markup (hexNumber? hexValue?)

private theorem hexValue?_digitChar : ∀ n < 16, hexValue? n.digitChar = some n := by
  decide

private theorem hexNumber?_append_singleton (digits : List Char) (c : Char) :
    hexNumber? (digits ++ [c]) =
      (hexNumber? digits).bind fun n => (hexValue? c).map (16 * n + ·) := by
  rw [hexNumber?, List.foldlM_append, hexNumber?]
  simp

private theorem hexNumber?_toDigits (n : Nat) : hexNumber? (Nat.toDigits 16 n) = some n := by
  induction n using Nat.strongRecOn with
  | ind n ih =>
    by_cases small : n < 16
    · rw [Nat.toDigits_of_lt_base small]
      simp [hexNumber?, hexValue?_digitChar n small]
    · rw [Nat.toDigits_of_base_le (by decide) (by omega), hexNumber?_append_singleton,
        ih _ (by omega), hexValue?_digitChar _ (by omega)]
      simp
      omega

private theorem hexNumber?_zeros (count : Nat) (digits : List Char) :
    hexNumber? (List.replicate count '0' ++ digits) = hexNumber? digits := by
  induction count with
  | zero => rfl
  | succ count ih => exact ih

/-- The hexadecimal digits of a number denote it. -/
theorem hexNumber?_hexDigits (width n : Nat) : hexNumber? (hexDigits width n) = some n := by
  rw [hexDigits, hexNumber?_zeros, hexNumber?_toDigits]

theorem length_hexDigits {width n : Nat} (positive : 0 < width) (fits : n < 16 ^ width) :
    (hexDigits width n).length = width := by
  have short := (Nat.length_toDigits_le_iff (by decide) positive).mpr fits
  rw [hexDigits, List.length_append, List.length_replicate]
  omega

end DrawingCode.Text
