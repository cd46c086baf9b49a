import DrawingCode.Proofs.Double.ReadBack
import DrawingCode.Value.Basic

/-! # Numerals of values

The numeral that stands for a value is itself a text that stands for a double, the same one as the
value does, and so it is its own numeral. Two values therefore share a numeral exactly if they stand
for the same double. The two zeros are different doubles here, and the patterns that are no number
count as one.
-/

namespace DrawingCode

namespace Double

private theorem isNaN_nan : nan.isNaN := by decide

/-- Only patterns that are no number are brought to one form. -/
theorem canonical_eq_canonical_iff {a b : Double} :
    a.canonical = b.canonical ↔ a = b ∨ a.isNaN ∧ b.isNaN := by
  unfold canonical
  split_ifs with first second second
  · exact iff_of_true rfl (.inr ⟨first, second⟩)
  · constructor
    · rintro rfl
      exact absurd isNaN_nan second
    · rintro (rfl | ⟨-, both⟩)
      · exact absurd first second
      · exact absurd both second
  · constructor
    · rintro rfl
      exact absurd isNaN_nan first
    · rintro (rfl | ⟨both, -⟩)
      · exact absurd second first
      · exact absurd both first
  · exact (or_iff_left fun both => first both.1).symm

end Double

namespace Value

theorem numeral_eq_ok_iff {v : Value} {t : String} :
    v.numeral = .ok t ↔ ∃ d, v.toDouble = .ok d ∧ t = d.text := by
  unfold numeral
  cases v.toDouble with
  | ok d => simp [Except.map, eq_comm]
  | error e => simp [Except.map]

/-- A text stands for the double that is read from it. -/
theorem toDouble_of_read? {s : String} {d : Double} (read : Double.read? s = some d) :
    (text s).toDouble = .ok d := by
  rw [toDouble, read, Option.elim_some]

/-- The text of a double stands for the double, all patterns that are no number being one. -/
theorem toDouble_text (d : Double) : (text d.text).toDouble = .ok d.canonical :=
  toDouble_of_read? (Double.read?_text d)

/-- The numeral of a value is its own numeral. It stands for the double that the value stands for,
unless that is no number and the numeral says so. Two values have the same numeral exactly if they
stand for the same double or for none. -/
theorem numeral_stands_for_value {v w : Value} {t u : String} (numeral : v.numeral = .ok t)
    (other : w.numeral = .ok u) :
    (text t).numeral = .ok t ∧ ∃ a b, v.toDouble = .ok a ∧ w.toDouble = .ok b ∧
      (if a.isNaN then t = "nan" else (text t).toDouble = .ok a) ∧
      (t = u ↔ a = b ∨ a.isNaN ∧ b.isNaN) := by
  obtain ⟨a, converted, rfl⟩ := numeral_eq_ok_iff.mp numeral
  obtain ⟨b, otherConverted, rfl⟩ := numeral_eq_ok_iff.mp other
  have again : (text a.text).toDouble = .ok a.canonical := toDouble_text a
  refine ⟨numeral_eq_ok_iff.mpr ⟨a.canonical, again, a.text_canonical.symm⟩,
    a, b, converted, otherConverted, ?_, ?_⟩
  · split_ifs with isNaN
    · exact Double.text_of_isNaN isNaN
    · rw [again, Double.canonical_of_number (by simpa [Double.isNaN] using isNaN)]
  · rw [Double.text_eq_text_iff, Double.canonical_eq_canonical_iff]

/-- The least double above zero and a decimal that rounds to it have one numeral, which is another
decimal that rounds to it. -/
theorem numeral_stands_for_value_least :
    (double (.ofBits 1)).numeral = .ok "5e-324" ∧
      (text " +4_000e-327").numeral = .ok "5e-324" ∧
      (text "5e-324").numeral = .ok "5e-324" ∧ (text "5e-324").toDouble = .ok (.ofBits 1) := by
  have least : (double (.ofBits 1)).numeral = .ok "5e-324" := by decide +kernel
  have decimal : (text " +4_000e-327").numeral = .ok "5e-324" := by decide +kernel
  obtain ⟨again, a, _, converted, _, same, _⟩ := numeral_stands_for_value least decimal
  cases converted
  exact ⟨least, decimal, again, same⟩

end Value

end DrawingCode
