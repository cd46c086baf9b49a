import DrawingCode.Markup.Scan
import DrawingCode.Proofs.Markup.Scalar

/-! # Cutting a text ends in the text

Every step of a scan leaves an end of the text that it begins with, so whatever stops a scan has its
reason in the excerpt that is cut, or behind it.
-/

namespace DrawingCode.Markup

namespace Scan

variable (s : Scan)

/-- A later state of a scan. -/
def Follows (later : Scan) : Prop := later.rest <:+ s.rest ∧ later.breach = s.breach

/-- A step that leads to a later state, or fails with a fault that there is a reason for. -/
def Advances : Except Fault Scan → Prop := Ends s.Follows (Unreadable s.breach s.rest)

variable {s} {later : Scan} {reading : Except Fault Scan}

theorem Follows.refl : s.Follows s := ⟨List.suffix_rfl, rfl⟩

theorem Follows.trans {last : Scan} (first : s.Follows later) (second : later.Follows last) :
    s.Follows last :=
  ⟨second.1.trans first.1, second.2.trans first.2⟩

namespace Advances

theorem ok (h : s.Follows later) : s.Advances (.ok later) := h

theorem malformed : s.Advances (.error .malformed) := Ends.error .malformed

/-- What goes on from a later state goes on from this one. -/
theorem of_follows (h : later.Advances reading) (after : s.Follows later) : s.Advances reading := by
  refine h.mono (fun _ further => after.trans further) fun _ reason => ?_
  rw [after.2] at reason
  exact reason.of_part after.1.isInfix

theorem andThen {f : Scan → Except Fault Scan} (h : s.Advances reading)
    (next : ∀ later, s.Follows later → later.Advances (f later)) : s.Advances (reading >>= f) :=
  h.bind fun later after => (next later after).of_follows after

end Advances

variable (s)

/-! ## Moving on -/

end Scan

end DrawingCode.Markup
