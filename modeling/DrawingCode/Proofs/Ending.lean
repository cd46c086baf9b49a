/-! # How computations end

A computation that can fail ends with a result or with a fault. What is known of both is said at
once, so that it is handed on along a row of steps.
-/

namespace DrawingCode

variable {ε α β : Type} {good : α → Prop} {bad : ε → Prop} {x : Except ε α}

/-- A computation that ends with a good result or with a fault of a bad kind. -/
def Ends (good : α → Prop) (bad : ε → Prop) : Except ε α → Prop
  | .ok a => good a
  | .error fault => bad fault

namespace Ends

theorem ok {a : α} (h : good a) : Ends good bad (.ok a) := h

theorem error {fault : ε} (h : bad fault) : Ends good bad (.error fault) := h

theorem mono {better : α → Prop} {worse : ε → Prop} (h : Ends good bad x)
    (onResult : ∀ a, good a → better a) (onFault : ∀ fault, bad fault → worse fault) :
    Ends better worse x := by
  cases x with
  | ok a => exact onResult a h
  | error fault => exact onFault fault h

/-- The result is as good if there are more reasons for a fault. -/
theorem weaken {worse : ε → Prop} (h : Ends good bad x)
    (onFault : ∀ fault, bad fault → worse fault) : Ends good worse x :=
  h.mono (fun _ h => h) onFault

/-- A step after another one may rely on what the first one gives. -/
theorem bind {next : β → Prop} {f : α → Except ε β} (h : Ends good bad x)
    (step : ∀ a, good a → Ends next bad (f a)) : Ends next bad (x >>= f) := by
  cases x with
  | ok a => exact step a h
  | error fault => exact h

theorem map {next : β → Prop} {f : α → β} (h : Ends good bad x) (step : ∀ a, good a → next (f a)) :
    Ends next bad (x.map f) := by
  cases x with
  | ok a => exact step a h
  | error fault => exact h

/-- Steps along a list keep what every one of them keeps. -/
theorem foldlM {step : α → β → Except ε α} (l : List β) (a : α) (start : good a)
    (keeps : ∀ a, good a → ∀ b ∈ l, Ends good bad (step a b)) : Ends good bad (l.foldlM step a) := by
  induction l generalizing a with
  | nil => exact start
  | cons b l ih =>
    rw [List.foldlM_cons]
    refine (keeps a start b (by simp)).bind fun next kept => ?_
    exact ih next kept fun a h b mem => keeps a h b (by simp [mem])

/-- What is done to every member of a list fails as it does for one of them. -/
theorem mapM {f : α → Except ε β} (l : List α)
    (each : ∀ a ∈ l, Ends (fun _ => True) bad (f a)) : Ends (fun _ => True) bad (l.mapM f) := by
  induction l with
  | nil => trivial
  | cons a l ih =>
    rw [List.mapM_cons]
    refine (each a (by simp)).bind fun _ _ => ?_
    exact (ih fun a mem => each a (by simp [mem])).bind fun _ _ => trivial

theorem iff_outcomes : Ends good bad x ↔
    (∀ a, x = .ok a → good a) ∧ ∀ fault, x = .error fault → bad fault := by
  cases x <;> simp [Ends]

end Ends

end DrawingCode
