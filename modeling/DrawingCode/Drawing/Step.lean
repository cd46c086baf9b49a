import DrawingCode.Drawing.Geometry

/-! # Drawing steps

The eighteen kinds of drawing steps. Three of them only mark a place in the drawing and draw
nothing; two of them set a colour, and each of these needs a resource of its own.
-/

namespace DrawingCode

/-- How the inside of a path is found. -/
inductive FillRule where
  | winding
  | evenOdd
deriving DecidableEq

def FillRule.name : FillRule → String
  | winding => "winding"
  | evenOdd => "evenOdd"

/-- One drawing step over coordinates of some kind. -/
inductive Step (α : Type) where
  | saveGState
  | restoreGState
  | moveTo (point : Point α)
  | curve (first second target : Point α)
  | line (point : Point α)
  | closePath
  | clip (rule : FillRule)
  | endPath
  | flatness (value : α)
  | nonStrokeColorSpace
  | nonStrokeColor (color : Color α)
  | appendRectangle (rect : Rect α)
  | fill (rule : FillRule)
  | strokeColorSpace
  | strokeColor (color : Color α)
  | concatCTM (transform : Transform α)
  | lineWidth (value : α)
  | stroke

inductive StepKind where
  | saveGState
  | restoreGState
  | moveTo
  | curve
  | line
  | closePath
  | clip
  | endPath
  | flatness
  | nonStrokeColorSpace
  | nonStrokeColor
  | appendRectangle
  | fill
  | strokeColorSpace
  | strokeColor
  | concatCTM
  | lineWidth
  | stroke
deriving DecidableEq

def StepKind.name : StepKind → String
  | saveGState => "SaveGState"
  | restoreGState => "RestoreGState"
  | moveTo => "MoveTo"
  | curve => "Curve"
  | line => "Line"
  | closePath => "ClosePath"
  | clip => "Clip"
  | endPath => "EndPath"
  | flatness => "Flatness"
  | nonStrokeColorSpace => "NonStrokeColorSpace"
  | nonStrokeColor => "NonStrokeColor"
  | appendRectangle => "AppendRectangle"
  | fill => "Fill"
  | strokeColorSpace => "StrokeColorSpace"
  | strokeColor => "StrokeColor"
  | concatCTM => "ConcatCTM"
  | lineWidth => "LineWidth"
  | stroke => "Stroke"

namespace Step

variable {α β : Type}

def kind : Step α → StepKind
  | saveGState => .saveGState
  | restoreGState => .restoreGState
  | moveTo _ => .moveTo
  | curve .. => .curve
  | line _ => .line
  | closePath => .closePath
  | clip _ => .clip
  | endPath => .endPath
  | flatness _ => .flatness
  | nonStrokeColorSpace => .nonStrokeColorSpace
  | nonStrokeColor _ => .nonStrokeColor
  | appendRectangle _ => .appendRectangle
  | fill _ => .fill
  | strokeColorSpace => .strokeColorSpace
  | strokeColor _ => .strokeColor
  | concatCTM _ => .concatCTM
  | lineWidth _ => .lineWidth
  | stroke => .stroke

/-- Whether a step only marks a place in the drawing. -/
def isMarker : Step α → Bool
  | endPath | nonStrokeColorSpace | strokeColorSpace => true
  | _ => false

def isColor : Step α → Bool
  | nonStrokeColor _ | strokeColor _ => true
  | _ => false

/-- Converts the coordinates of a step in the order in which code lists them. -/
def mapM {m : Type → Type} [Monad m] (f : α → m β) : Step α → m (Step β)
  | saveGState => pure saveGState
  | restoreGState => pure restoreGState
  | moveTo point => return moveTo (← point.mapM f)
  | curve first second target =>
    return curve (← first.mapM f) (← second.mapM f) (← target.mapM f)
  | line point => return line (← point.mapM f)
  | closePath => pure closePath
  | clip rule => pure (clip rule)
  | endPath => pure endPath
  | flatness value => return flatness (← f value)
  | nonStrokeColorSpace => pure nonStrokeColorSpace
  | nonStrokeColor color => return nonStrokeColor (← color.mapM f)
  | appendRectangle rect => return appendRectangle (← rect.mapM f)
  | fill rule => pure (fill rule)
  | strokeColorSpace => pure strokeColorSpace
  | strokeColor color => return strokeColor (← color.mapM f)
  | concatCTM transform => return concatCTM (← transform.mapM f)
  | lineWidth value => return lineWidth (← f value)
  | stroke => pure stroke

end Step

end DrawingCode
