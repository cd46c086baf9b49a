import DrawingCode.Double.Written
import DrawingCode.Drawing.Step
import DrawingCode.Settings

/-! # Generated code

A function body is a list of statements, one to a line. Colours are resources: a colour is made
under a number of its own, set, and released at once, and the colour space that they share is made
before all other statements and released after them.

The names of the functions and of the size constants are made from the names of the images. Every
file begins with a note on its origin and one import.
-/

namespace DrawingCode.Code

/-! ## Expressions

Coordinates stand behind a cast, rectangles and transforms are made by a call, and colours are given
by a list of components that ends in full opacity.
-/

/-- A number behind the cast to a coordinate. -/
def castText (d : Double) : String := "(CGFloat)" ++ d.text

def pointsText (points : List (Point Double)) : String :=
  ", ".intercalate (points.map fun p => castText p.x ++ ", " ++ castText p.y)

def rectText (r : Rect Double) : String :=
  "CGRectMake(" ++ castText r.x ++ ", " ++ castText r.y ++ ", " ++ castText r.width ++ ", " ++
    castText r.height ++ ")"

def transformText (t : Transform Double) : String :=
  "CGAffineTransformMake(" ++ t.a.text ++ ", " ++ t.b.text ++ ", " ++ t.c.text ++ ", " ++
    t.d.text ++ ", " ++ t.tx.text ++ ", " ++ t.ty.text ++ ")"

/-- The components of an opaque colour. -/
def componentsText (c : Color Double) : String :=
  "(CGFloat [])\x7b" ++ castText c.red ++ ", " ++ castText c.green ++ ", " ++ castText c.blue ++
    ", 1\x7d"

/-! ## Statements -/

/-- What a call into the drawing library passes besides the context. -/
inductive Operand where
  | points (points : List (Point Double))
  | number (d : Double)
  | rect (r : Rect Double)
  | transform (t : Transform Double)
  | color (id : Nat)

inductive Statement where
  /-- A call of a function of the drawing context. -/
  | call (function : String) (operand : Option Operand)
  | createSpace
  | releaseSpace
  | createColor (id : Nat) (color : Color Double)
  | releaseColor (id : Nat)

def spaceName : String := "rgbColorSpace"

def colorName (id : Nat) : String := "color" ++ toString id

def Operand.text : Operand → String
  | points ps => pointsText ps
  | number d => castText d
  | rect r => rectText r
  | transform t => transformText t
  | color id => colorName id

def Statement.line : Statement → String
  | call function operand =>
    "  CGContext" ++ function ++ "(context" ++
      (match operand with
        | some o => ", " ++ o.text
        | none => "") ++ ");"
  | createSpace => "  CGColorSpaceRef " ++ spaceName ++ " = CGColorSpaceCreateDeviceRGB();"
  | releaseSpace => "  CGColorSpaceRelease(" ++ spaceName ++ ");"
  | createColor id color =>
    "  CGColorRef " ++ colorName id ++ " = CGColorCreate(" ++ spaceName ++ ", " ++
      componentsText color ++ ");"
  | releaseColor id => "  CGColorRelease(" ++ colorName id ++ ");"

/-- The statements that set a colour by a function: the colour is made, passed on and released. -/
def setColor (function : String) (color : Color Double) (id : Nat) : List Statement :=
  [.createColor id color, .call function (some (.color id)), .releaseColor id]

/-- The statements for a step; `id` is the number for the colour, if it sets one. -/
def statements (id : Nat) : Step Double → List Statement
  | .saveGState => [.call "SaveGState" none]
  | .restoreGState => [.call "RestoreGState" none]
  | .moveTo point => [.call "MoveToPoint" (some (.points [point]))]
  | .curve first second target =>
    [.call "AddCurveToPoint" (some (.points [first, second, target]))]
  | .line point => [.call "AddLineToPoint" (some (.points [point]))]
  | .closePath => [.call "ClosePath" none]
  | .clip .winding => [.call "Clip" none]
  | .clip .evenOdd => [.call "EOClip" none]
  | .endPath => []
  | .flatness value => [.call "SetFlatness" (some (.number value))]
  | .nonStrokeColorSpace => []
  | .nonStrokeColor color => setColor "SetFillColorWithColor" color id
  | .appendRectangle rect => [.call "AddRect" (some (.rect rect))]
  | .fill .winding => [.call "FillPath" none]
  | .fill .evenOdd => [.call "EOFillPath" none]
  | .strokeColorSpace => []
  | .strokeColor color => setColor "SetStrokeColorWithColor" color id
  | .concatCTM transform => [.call "ConcatCTM" (some (.transform transform))]
  | .lineWidth value => [.call "SetLineWidth" (some (.number value))]
  | .stroke => [.call "StrokePath" none]

/-! ## Names and frames -/

def functionName (functionPrefix imageName : String) : String :=
  functionPrefix ++ "Draw" ++ imageName ++ "ImageInContext"

def sizeConstantName (imageName : String) : String := "k" ++ imageName ++ "ImageSize"

/-- The head of a function that draws an image, without what follows the parameters. -/
def functionHead (functionPrefix imageName : String) : String :=
  "void " ++ functionName functionPrefix imageName ++ "(CGContextRef context)"

def preamble (toolName importTarget : String) : String :=
  "// Generated by " ++ toolName ++ "\n\n#import " ++ importTarget ++ "\n\n"

def libraryHeader : String := "<CoreGraphics/CoreGraphics.h>"

/-- What a file of a generator begins with. Only implementations import another header than that of
the library. -/
def filePreamble : Generator → String
  | .implementation settings =>
    preamble settings.toolName (match settings.headerPath with
      | some path => "\"" ++ path ++ "\""
      | none => libraryHeader)
  | .header _ toolName => preamble toolName libraryHeader

end DrawingCode.Code
