import DrawingCode.Code
import DrawingCode.Proofs.Double.ReadBack

/-! # Canonical drawings and their code

The patterns that stand for no number all have one text. A step is canonical if it has only one of
these patterns, and every step has the same code as its canonical step.
-/

namespace DrawingCode

section Coordinates

variable {α β : Type}

def Point.map (f : α → β) (p : Point α) : Point β := ⟨f p.x, f p.y⟩

def Rect.map (f : α → β) (r : Rect α) : Rect β := ⟨f r.x, f r.y, f r.width, f r.height⟩

def Transform.map (f : α → β) (t : Transform α) : Transform β :=
  ⟨f t.a, f t.b, f t.c, f t.d, f t.tx, f t.ty⟩

def Color.map (f : α → β) (c : Color α) : Color β := ⟨f c.red, f c.green, f c.blue⟩

/-- Changes the coordinates of a step. -/
def Step.map (f : α → β) : Step α → Step β
  | saveGState => saveGState
  | restoreGState => restoreGState
  | moveTo point => moveTo (point.map f)
  | curve first second target => curve (first.map f) (second.map f) (target.map f)
  | line point => line (point.map f)
  | closePath => closePath
  | clip rule => clip rule
  | endPath => endPath
  | flatness value => flatness (f value)
  | nonStrokeColorSpace => nonStrokeColorSpace
  | nonStrokeColor color => nonStrokeColor (color.map f)
  | appendRectangle rect => appendRectangle (rect.map f)
  | fill rule => fill rule
  | strokeColorSpace => strokeColorSpace
  | strokeColor color => strokeColor (color.map f)
  | concatCTM transform => concatCTM (transform.map f)
  | lineWidth value => lineWidth (f value)
  | stroke => stroke

end Coordinates

/-- The step with every coordinate that is no number replaced by one of them. -/
def Step.canonical (s : Step Double) : Step Double := s.map Double.canonical

theorem Step.isColor_canonical (s : Step Double) : s.canonical.isColor = s.isColor := by
  cases s <;> rfl

theorem Step.isMarker_canonical (s : Step Double) : s.canonical.isMarker = s.isMarker := by
  cases s <;> rfl

namespace Code

def Operand.canonical : Operand → Operand
  | points ps => points (ps.map (Point.map Double.canonical))
  | number d => number d.canonical
  | rect r => rect (r.map Double.canonical)
  | transform t => transform (t.map Double.canonical)
  | color id => color id

def Statement.canonical : Statement → Statement
  | call function operand => call function (operand.map Operand.canonical)
  | createSpace => createSpace
  | releaseSpace => releaseSpace
  | createColor id color => createColor id (color.map Double.canonical)
  | releaseColor id => releaseColor id

private theorem castText_canonical (d : Double) : castText d.canonical = castText d := by
  rw [castText, castText, Double.text_canonical]

private theorem pointsText_canonical (points : List (Point Double)) :
    pointsText (points.map (Point.map Double.canonical)) = pointsText points := by
  rw [pointsText, pointsText, List.map_map]
  congr 1
  apply List.map_congr_left
  intro p _
  simp only [Function.comp_apply, Point.map, castText_canonical]

private theorem rectText_canonical (r : Rect Double) :
    rectText (r.map Double.canonical) = rectText r := by
  unfold rectText Rect.map
  simp only [castText_canonical]

private theorem transformText_canonical (t : Transform Double) :
    transformText (t.map Double.canonical) = transformText t := by
  unfold transformText Transform.map
  simp only [Double.text_canonical]

private theorem componentsText_canonical (c : Color Double) :
    componentsText (c.map Double.canonical) = componentsText c := by
  unfold componentsText Color.map
  simp only [castText_canonical]

theorem Operand.text_canonical (o : Operand) : o.canonical.text = o.text := by
  cases o with
  | points ps => exact pointsText_canonical ps
  | number d => exact castText_canonical d
  | rect r => exact rectText_canonical r
  | transform t => exact transformText_canonical t
  | color id => rfl

theorem Statement.line_canonical (s : Statement) : s.canonical.line = s.line := by
  cases s with
  | call function operand =>
    cases operand with
    | none => rfl
    | some o =>
      unfold line canonical
      simp only [Option.map_some, o.text_canonical]
  | createColor id color =>
    unfold line canonical
    simp only [componentsText_canonical]
  | _ => rfl

/-- The code of the canonical step is the canonical code of the step. -/
theorem statements_canonical (id : Nat) (s : Step Double) :
    statements id s.canonical = (statements id s).map Statement.canonical := by
  cases s with
  | clip rule | fill rule => cases rule <;> rfl
  | _ => rfl

end Code

end DrawingCode
