import DrawingCode.Proofs.Code.Bodies
import DrawingCode.Proofs.Code.Closure

/-! # Functions in the text of a file

The lines of a function have no line ends in them and none of them is empty, so functions can be
told from the text that puts them together. Two lists of functions that are numbered from the same
count are the same exactly if the same is shown of the drawings.
-/

namespace DrawingCode

namespace Code

theorem Statement.newline_not_mem_line {s : Statement} (plain : s.Plain) :
    '\n' ∉ s.line.toList := by
  obtain ⟨front, line, _, free⟩ := Statement.endsOnce plain
  have inside := free '\n' (.inl rfl)
  simp [line, inside]

private theorem Statement.line_ne_empty (s : Statement) : s.line ≠ "" := by
  intro empty
  have chars := congrArg String.toList empty
  cases s with
  | _ =>
    unfold line at chars
    simp at chars

private theorem functionHead_inj {functionPrefix name other : String}
    (same : functionHead functionPrefix name = functionHead functionPrefix other) :
    name = other := by
  unfold functionHead functionName at same
  rwa [String.append_left_inj, String.append_right_inj, String.append_left_inj,
    String.append_right_inj] at same

theorem isBlock_functionLines {functionPrefix name : String} {body : List Statement}
    (unbroken : '\n' ∉ functionPrefix.toList) (named : '\n' ∉ name.toList)
    (plain : ∀ s ∈ body, s.Plain) : Text.IsBlock (functionLines functionPrefix name body) := by
  have head : '\n' ∉ (functionHead functionPrefix name ++ " \x7b").toList := by
    unfold functionHead functionName
    simp [unbroken, named]
  have headFilled : functionHead functionPrefix name ++ " \x7b" ≠ "" := by
    intro empty
    have chars := congrArg String.toList empty
    unfold functionHead at chars
    simp at chars
  constructor
  · exact List.cons_ne_nil _ _
  · simp only [functionLines, List.forall_mem_cons, List.forall_mem_append, List.forall_mem_map]
    exact ⟨head, Statement.newline_not_mem_line trivial,
      fun s member => Statement.newline_not_mem_line (plain s member),
      Statement.newline_not_mem_line trivial, by decide, List.forall_mem_nil _⟩
  · simp only [functionLines, List.forall_mem_cons, List.forall_mem_append, List.forall_mem_map]
    exact ⟨headFilled, Statement.line_ne_empty _, fun s _ => s.line_ne_empty,
      Statement.line_ne_empty _, by decide, List.forall_mem_nil _⟩

private theorem functionLines_eq_iff {functionPrefix name other : String}
    {body otherBody : List Statement} :
    functionLines functionPrefix name body = functionLines functionPrefix other otherBody ↔
      name = other ∧ body.map (·.line) = otherBody.map (·.line) := by
  constructor
  · intro same
    obtain ⟨heads, rests⟩ := List.cons.inj same
    obtain ⟨_, bodies⟩ := List.cons.inj rests
    exact ⟨functionHead_inj ((String.append_left_inj _).mp heads), List.append_cancel_right bodies⟩
  · rintro ⟨rfl, bodies⟩
    rw [functionLines, bodies, functionLines]

private theorem idTotal_eq_of_shown {steps others : List (Step Double)}
    (same : Step.shown steps = Step.shown others) : idTotal steps = idTotal others := by
  rw [← idTotal_shown, same, idTotal_shown]

/-- Functions that are numbered from the same count are the same exactly if the same is shown of
the drawings. -/
theorem functionBlocks_eq_iff {functionPrefix : String} {id : Nat}
    {drawings others : List Drawing} :
    functionBlocks functionPrefix id drawings = functionBlocks functionPrefix id others ↔
      drawings.map Drawing.shown = others.map Drawing.shown := by
  induction drawings generalizing others id with
  | nil =>
    cases others with
    | nil => exact ⟨fun _ => rfl, fun _ => rfl⟩
    | cons _ _ => simp [functionBlocks]
  | cons drawing rest ih =>
    cases others with
    | nil => simp [functionBlocks]
    | cons other more =>
      rw [functionBlocks, functionBlocks, List.cons.injEq, functionLines_eq_iff, bodyLines_eq_iff,
        List.map_cons, List.map_cons, List.cons.injEq]
      constructor
      · rintro ⟨⟨names, steps⟩, later⟩
        rw [idTotal_eq_of_shown steps, ih] at later
        exact ⟨congrArg₂ Drawing.mk names steps, later⟩
      · rintro ⟨here, later⟩
        obtain ⟨names, steps⟩ := Drawing.mk.inj here
        rw [idTotal_eq_of_shown steps, ih]
        exact ⟨⟨names, steps⟩, later⟩

theorem isBlock_of_mem_functionBlocks {functionPrefix : String} {drawings : List Drawing} (id : Nat)
    (unbroken : '\n' ∉ functionPrefix.toList) (named : ∀ d ∈ drawings, '\n' ∉ d.name.toList) :
    ∀ block ∈ functionBlocks functionPrefix id drawings, Text.IsBlock block := by
  induction drawings generalizing id with
  | nil => exact List.forall_mem_nil _
  | cons drawing rest ih =>
    obtain ⟨here, later⟩ := List.forall_mem_cons.mp named
    exact List.forall_mem_cons.mpr
      ⟨isBlock_functionLines unbroken here plain_of_mem_bodyStatements, ih _ later⟩

end Code

end DrawingCode
