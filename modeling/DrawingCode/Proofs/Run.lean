import DrawingCode.Run

/-! # Laws of runs

A run returns a result or fails for a reason, and leaves a count either way. One run after another
is taken apart by what it returns and how it fails. It does not matter how a sequence of runs is
bracketed, so a run that is made from a list can be cut wherever the list can.
-/

namespace DrawingCode

variable {α β γ : Type}

/-- A run succeeds with a result and leaves a count. -/
structure Run.Returns (run : Run α) (a : α) (issued : Nat) : Prop where
  outcome : run.outcome = .ok a
  count : run.issued = issued

/-- A run fails for a reason and leaves a count. -/
structure Run.Fails (run : Run α) (e : Failure) (issued : Nat) : Prop where
  outcome : run.outcome = .error e
  count : run.issued = issued

/-- The run for a whole does what the runs for its two parts do, the second of them from the count
that the first one leaves. -/
structure Run.Joins (combines : α → α → α → Prop) (first : Run α) (second : Nat → Run α)
    (whole : Run α) : Prop where
  returns : ∀ {a b middle left}, first.Returns a middle → (second middle).Returns b left →
    ∃ c, combines a b c ∧ whole.Returns c left
  failsFirst : ∀ {e middle}, first.Fails e middle → whole.Fails e middle
  failsSecond : ∀ {a e middle left}, first.Returns a middle → (second middle).Fails e left →
    whole.Fails e left

namespace Run

theorem returns_of_ok {run : Run α} {a : α} (success : run.outcome = .ok a) :
    run.Returns a run.issued := ⟨success, rfl⟩

theorem returns_done_iff {a b : α} {issued left : Nat} :
    (done a issued).Returns b left ↔ b = a ∧ left = issued := by
  constructor
  · rintro ⟨outcome, rfl⟩
    exact ⟨(Except.ok.inj outcome).symm, rfl⟩
  · rintro ⟨rfl, rfl⟩
    exact ⟨rfl, rfl⟩

theorem not_returns_failed {e : Failure} {issued left : Nat} {a : α} :
    ¬ (failed e issued).Returns a left := by
  rintro ⟨outcome, _⟩
  cases outcome

theorem returns_map_iff {f : α → β} {run : Run α} {b : β} {left : Nat} :
    (run.map f).Returns b left ↔ ∃ a, run.Returns a left ∧ b = f a := by
  constructor
  · rintro ⟨outcome, count⟩
    cases result : run.outcome with
    | ok a =>
      simp only [map, result, Except.map] at outcome
      exact ⟨a, ⟨result, count⟩, (Except.ok.inj outcome).symm⟩
    | error e =>
      simp only [map, result, Except.map] at outcome
      cases outcome
  · rintro ⟨a, ⟨outcome, count⟩, rfl⟩
    exact ⟨by simp only [map, outcome, Except.map], count⟩

theorem fails_map_iff {f : α → β} {run : Run α} {e : Failure} {left : Nat} :
    (run.map f).Fails e left ↔ run.Fails e left := by
  constructor
  · rintro ⟨outcome, count⟩
    cases result : run.outcome with
    | ok a =>
      simp only [map, result, Except.map] at outcome
      cases outcome
    | error other =>
      simp only [map, result, Except.map] at outcome
      exact ⟨result.trans (congrArg Except.error (Except.error.inj outcome)), count⟩
  · rintro ⟨outcome, count⟩
    exact ⟨by simp only [map, outcome, Except.map], count⟩

theorem returns_or_fails (run : Run α) :
    (∃ a, run.Returns a run.issued) ∨ ∃ e, run.Fails e run.issued := by
  cases result : run.outcome with
  | ok a => exact .inl ⟨a, result, rfl⟩
  | error e => exact .inr ⟨e, result, rfl⟩

section Sequence

variable {first : Run α} {next : α → Nat → Run β} {a : α} {b : β} {e : Failure} {middle left : Nat}

private theorem Returns.outcome_andThen (here : first.Returns a middle) :
    (first.andThen next).outcome = (next a middle).outcome := by
  obtain ⟨outcome, rfl⟩ := here
  simp only [andThen, outcome]

private theorem Returns.issued_andThen (here : first.Returns a middle) :
    (first.andThen next).issued = (next a middle).issued := by
  obtain ⟨outcome, rfl⟩ := here
  simp only [andThen, outcome]

/-- What the second run logs comes behind what the first one has logged. -/
theorem Returns.log_andThen (here : first.Returns a middle) :
    (first.andThen next).log = first.log ++ (next a middle).log := by
  obtain ⟨outcome, rfl⟩ := here
  simp only [andThen, outcome]

theorem Fails.andThen (here : first.Fails e middle) : (first.andThen next).Fails e middle := by
  obtain ⟨outcome, rfl⟩ := here
  constructor
  · simp only [Run.andThen, outcome]
  · simp only [Run.andThen, outcome]

theorem Fails.log_andThen (here : first.Fails e middle) :
    (first.andThen next).log = first.log := by
  simp only [Run.andThen, here.outcome]

theorem returns_andThen_iff : (first.andThen next).Returns b left ↔
    ∃ a middle, first.Returns a middle ∧ (next a middle).Returns b left := by
  constructor
  · rintro ⟨outcome, count⟩
    rcases first.returns_or_fails with ⟨a, here⟩ | ⟨e, here⟩
    · exact ⟨a, _, here, here.outcome_andThen.symm.trans outcome,
        here.issued_andThen.symm.trans count⟩
    · cases here.andThen.outcome.symm.trans outcome
  · rintro ⟨a, middle, here, later⟩
    exact ⟨here.outcome_andThen.trans later.outcome, here.issued_andThen.trans later.count⟩

theorem fails_andThen_iff : (first.andThen next).Fails e left ↔
    first.Fails e left ∨ ∃ a middle, first.Returns a middle ∧ (next a middle).Fails e left := by
  constructor
  · rintro ⟨outcome, count⟩
    rcases first.returns_or_fails with ⟨a, here⟩ | ⟨other, here⟩
    · exact .inr ⟨a, _, here, here.outcome_andThen.symm.trans outcome,
        here.issued_andThen.symm.trans count⟩
    · cases here.andThen.outcome.symm.trans outcome
      exact .inl ⟨here.outcome, here.andThen.count.symm.trans count⟩
  · rintro (here | ⟨a, middle, here, later⟩)
    · exact here.andThen
    · exact ⟨here.outcome_andThen.trans later.outcome, here.issued_andThen.trans later.count⟩

end Sequence

theorem le_issued_andThen {first : Run α} {next : α → Nat → Run β} {start : Nat}
    (here : start ≤ first.issued) (later : ∀ a, first.issued ≤ (next a first.issued).issued) :
    start ≤ (first.andThen next).issued := by
  unfold andThen
  cases first.outcome with
  | ok a => exact Nat.le_trans here (later a)
  | error e => exact here

theorem log_map (f : α → β) (run : Run α) : (run.map f).log = run.log := rfl

theorem log_andThen_eq_nil {first : Run α} {next : α → Nat → Run β} (here : first.log = [])
    (later : ∀ a issued, (next a issued).log = []) : (first.andThen next).log = [] := by
  unfold andThen
  cases first.outcome with
  | ok a => simp [here, later]
  | error e => exact here

theorem done_andThen (a : α) (issued : Nat) (next : α → Nat → Run β) :
    (done a issued).andThen next = next a issued := rfl

private theorem map_eq_andThen (f : α → β) (run : Run α) :
    run.map f = run.andThen fun a issued => done (f a) issued := by
  unfold map andThen done
  cases run.outcome with
  | ok a => simp [Except.map]
  | error e => rfl

theorem andThen_assoc (run : Run α) (next : α → Nat → Run β) (last : β → Nat → Run γ) :
    (run.andThen next).andThen last =
      run.andThen fun a issued => (next a issued).andThen last := by
  unfold andThen
  cases run.outcome with
  | error e => rfl
  | ok a =>
    cases result : (next a run.issued).outcome with
    | ok b => simp [result]
    | error e => simp [result]

theorem map_andThen (f : α → β) (run : Run α) (next : β → Nat → Run γ) :
    (run.map f).andThen next = run.andThen fun a => next (f a) := by
  rw [map_eq_andThen, andThen_assoc]
  rfl

theorem andThen_map (run : Run α) (next : α → Nat → Run β) (f : β → γ) :
    (run.andThen next).map f = run.andThen fun a issued => (next a issued).map f := by
  rw [map_eq_andThen, andThen_assoc]
  simp only [map_eq_andThen]

theorem map_map (f : α → β) (g : β → γ) (run : Run α) :
    (run.map f).map g = run.map fun a => g (f a) := by
  rw [map_eq_andThen g, map_andThen, map_eq_andThen]

theorem map_id (run : Run α) : (run.map fun a => a) = run := by
  obtain ⟨outcome, issued, log⟩ := run
  cases outcome <;> rfl

/-- A run that goes through its parts one after another joins them. -/
theorem joins_of_eq_andThen {combine : α → α → α} {first whole : Run α} {second : Nat → Run α}
    (split : whole = first.andThen fun a middle => (second middle).map (combine a)) :
    Joins (fun a b c => c = combine a b) first second whole := by
  subst split
  constructor
  · intro a b middle left here later
    exact ⟨combine a b, rfl,
      returns_andThen_iff.mpr ⟨a, middle, here, returns_map_iff.mpr ⟨b, later, rfl⟩⟩⟩
  · intro e middle here
    exact fails_andThen_iff.mpr (.inl here)
  · intro a e middle left here later
    exact fails_andThen_iff.mpr (.inr ⟨a, middle, here, fails_map_iff.mpr later⟩)

end Run

end DrawingCode
