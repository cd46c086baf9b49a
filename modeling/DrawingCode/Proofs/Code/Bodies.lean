import DrawingCode.Proofs.Code.Reading
import DrawingCode.Proofs.Generation.Emission
import DrawingCode.Proofs.Text.Lines

/-! # Reading functions back

A step that draws something begins with a statement that no other step begins with, and takes as
many statements as its kind says. So the steps can be read off a body one after another, except for
those that only mark a place. The name and the body of a function can be read off its lines.
-/

namespace DrawingCode

/-- What is shown of the steps of a drawing: not the marks, and one pattern for what is no number.
-/
def Step.shown (steps : List (Step Double)) : List (Step Double) :=
  (steps.filter fun s => !s.isMarker).map Step.canonical

/-- A drawing without what its code does not show. -/
def Drawing.shown (drawing : Drawing) : Drawing := ⟨drawing.name, Step.shown drawing.steps⟩

namespace Code

/-- The step that is drawn by one call. -/
def ofCall? : String → Option Operand → Option (Step Double)
  | "SaveGState", none => some .saveGState
  | "RestoreGState", none => some .restoreGState
  | "MoveToPoint", some (.points [point]) => some (.moveTo point)
  | "AddCurveToPoint", some (.points [first, second, target]) => some (.curve first second target)
  | "AddLineToPoint", some (.points [point]) => some (.line point)
  | "ClosePath", none => some .closePath
  | "Clip", none => some (.clip .winding)
  | "EOClip", none => some (.clip .evenOdd)
  | "SetFlatness", some (.number value) => some (.flatness value)
  | "AddRect", some (.rect rect) => some (.appendRectangle rect)
  | "FillPath", none => some (.fill .winding)
  | "EOFillPath", none => some (.fill .evenOdd)
  | "ConcatCTM", some (.transform transform) => some (.concatCTM transform)
  | "SetLineWidth", some (.number value) => some (.lineWidth value)
  | "StrokePath", none => some .stroke
  | _, _ => none

/-- The first step of a body, with the statements behind it. -/
def firstStep? : List Statement → Option (Step Double × List Statement)
  | .createColor _ color :: .call "SetFillColorWithColor" _ :: _ :: rest =>
    some (.nonStrokeColor color, rest)
  | .createColor _ color :: .call "SetStrokeColorWithColor" _ :: _ :: rest =>
    some (.strokeColor color, rest)
  | .call function operand :: rest => (ofCall? function operand).map (·, rest)
  | _ => none

private theorem firstStep?_statements {s : Step Double} (drawn : s.isMarker = false) (id : Nat)
    (rest : List Statement) : firstStep? (statements id s ++ rest) = some (s, rest) := by
  cases s with
  | endPath | nonStrokeColorSpace | strokeColorSpace => cases drawn
  | clip rule | fill rule => cases rule <;> rfl
  | _ => rfl

private theorem statements_of_isMarker {s : Step Double} (marker : s.isMarker) (id : Nat) :
    statements id s = [] := by
  cases s with
  | endPath | nonStrokeColorSpace | strokeColorSpace => rfl
  | _ => cases marker

private theorem idCount_of_isMarker {s : Step Double} (marker : s.isMarker) : idCount s = 0 := by
  cases s with
  | endPath | nonStrokeColorSpace | strokeColorSpace => rfl
  | _ => cases marker

private theorem firstStep?_bodyStatements {s : Step Double} (drawn : s.isMarker = false) (id : Nat)
    (rest : List (Step Double)) : firstStep? (bodyStatements id (s :: rest)) =
      some (s, bodyStatements (id + idCount s) rest) :=
  firstStep?_statements drawn id _

/-- Steps that all draw something can be told from their statements. -/
theorem bodyStatements_inj {steps others : List (Step Double)} {id : Nat}
    (drawn : ∀ s ∈ steps, s.isMarker = false) (othersDrawn : ∀ s ∈ others, s.isMarker = false)
    (same : bodyStatements id steps = bodyStatements id others) : steps = others := by
  induction steps generalizing others id with
  | nil =>
    cases others with
    | nil => rfl
    | cons t more =>
      have read := firstStep?_bodyStatements (othersDrawn t (by simp)) id more
      rw [← same] at read
      cases read
  | cons s rest ih =>
    have read := firstStep?_bodyStatements (drawn s (by simp)) id rest
    rw [same] at read
    cases others with
    | nil => cases read
    | cons t more =>
      rw [firstStep?_bodyStatements (othersDrawn t (by simp)) id more] at read
      obtain ⟨rfl, rests⟩ := Prod.mk.inj (Option.some.inj read)
      have later : rest = more := by
        apply ih
        · exact (List.forall_mem_cons.mp drawn).2
        · exact (List.forall_mem_cons.mp othersDrawn).2
        · exact rests.symm
      rw [later]

private theorem idCount_canonical (s : Step Double) : idCount s.canonical = idCount s := by
  rw [idCount, idCount, s.isColor_canonical]

theorem shown_cons_of_isMarker {s : Step Double} (marker : s.isMarker) (rest : List (Step Double)) :
    Step.shown (s :: rest) = Step.shown rest := by
  simp [Step.shown, marker]

theorem shown_cons_of_drawn {s : Step Double} (drawn : s.isMarker = false)
    (rest : List (Step Double)) : Step.shown (s :: rest) = s.canonical :: Step.shown rest := by
  simp [Step.shown, drawn]

private theorem isMarker_of_mem_shown {steps : List (Step Double)} :
    ∀ s ∈ Step.shown steps, s.isMarker = false := by
  intro s member
  obtain ⟨t, kept, rfl⟩ := List.mem_map.mp member
  rw [t.isMarker_canonical]
  simpa using (List.mem_filter.mp kept).2

/-- A drawing and what is shown of it take as many numbers. -/
theorem idTotal_shown (steps : List (Step Double)) :
    idTotal (Step.shown steps) = idTotal steps := by
  induction steps with
  | nil => rfl
  | cons s rest ih =>
    cases marker : s.isMarker with
    | true =>
      rw [shown_cons_of_isMarker marker, ih, idTotal, idCount_of_isMarker marker, Nat.zero_add]
    | false =>
      rw [shown_cons_of_drawn marker, idTotal, idTotal, ih, idCount_canonical]

/-- The statements for what is shown of a drawing are the canonical statements of the drawing. -/
theorem bodyStatements_shown (id : Nat) (steps : List (Step Double)) :
    bodyStatements id (Step.shown steps) = (bodyStatements id steps).map Statement.canonical := by
  induction steps generalizing id with
  | nil => rfl
  | cons s rest ih =>
    cases marker : s.isMarker with
    | true =>
      rw [shown_cons_of_isMarker marker, ih, bodyStatements, statements_of_isMarker marker,
        idCount_of_isMarker marker, List.nil_append, Nat.add_zero]
    | false =>
      rw [shown_cons_of_drawn marker, bodyStatements, bodyStatements, List.map_append, ih,
        statements_canonical, idCount_canonical]

theorem plain_of_mem_statements {id : Nat} {s : Step Double} :
    ∀ statement ∈ statements id s, statement.Plain := by
  have call (function : String) (operand : Option Operand)
      (letters : function.toList.all Char.isAlpha) :
      ∀ statement ∈ [Statement.call function operand], statement.Plain := by
    have plain : (Statement.call function operand).Plain := List.all_eq_true.mp letters
    exact List.forall_mem_singleton.mpr plain
  have sets (function : String) (color : Color Double)
      (letters : function.toList.all Char.isAlpha) :
      ∀ statement ∈ setColor function color id, statement.Plain := by
    unfold setColor
    simp only [List.forall_mem_cons]
    exact ⟨trivial, List.all_eq_true.mp letters, trivial, List.forall_mem_nil _⟩
  cases s with
  | nonStrokeColor color | strokeColor color => exact sets _ color (by decide)
  | endPath | nonStrokeColorSpace | strokeColorSpace => exact List.forall_mem_nil _
  | clip rule | fill rule => cases rule <;> exact call _ _ (by decide)
  | _ => exact call _ _ (by decide)

theorem plain_of_mem_bodyStatements {id : Nat} {steps : List (Step Double)} :
    ∀ statement ∈ bodyStatements id steps, statement.Plain := by
  induction steps generalizing id with
  | nil => exact List.forall_mem_nil _
  | cons s rest ih => exact List.forall_mem_append.mpr ⟨plain_of_mem_statements, ih⟩

private theorem map_line_eq_map_line_iff {first second : List Statement}
    (plain : ∀ s ∈ first, s.Plain) (otherPlain : ∀ s ∈ second, s.Plain) :
    first.map (·.line) = second.map (·.line) ↔
      first.map Statement.canonical = second.map Statement.canonical := by
  induction first generalizing second with
  | nil => simp [eq_comm]
  | cons s rest ih =>
    cases second with
    | nil => simp
    | cons t more =>
      obtain ⟨here, later⟩ := List.forall_mem_cons.mp plain
      obtain ⟨there, beyond⟩ := List.forall_mem_cons.mp otherPlain
      rw [List.map_cons, List.map_cons, List.cons.injEq, Statement.line_eq_line_iff here there,
        ih later beyond, List.map_cons, List.map_cons, List.cons.injEq]

/-- Two drawings have the same statements, from the same number on, exactly if the same is shown of
them. -/
theorem bodyLines_eq_iff {id : Nat} {steps others : List (Step Double)} :
    (bodyStatements id steps).map (·.line) = (bodyStatements id others).map (·.line) ↔
      Step.shown steps = Step.shown others := by
  rw [map_line_eq_map_line_iff plain_of_mem_bodyStatements plain_of_mem_bodyStatements,
    ← bodyStatements_shown, ← bodyStatements_shown]
  constructor
  · exact bodyStatements_inj isMarker_of_mem_shown isMarker_of_mem_shown
  · exact congrArg (bodyStatements id)

end Code

end DrawingCode
