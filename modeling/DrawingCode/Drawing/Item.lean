import DrawingCode.Drawing.Step
import DrawingCode.Settings
import DrawingCode.Value.Basic

/-! # Items, routes and images

A route lists items in the order in which they are drawn, and an image is a route with a name. The
items ought to be drawing steps, but anything may stand in their place, and what is not a step is
refused only when code is generated for it.
-/

namespace DrawingCode

/-- Anything that may stand in a route. -/
inductive Item where
  /-- A drawing step. -/
  | step (s : Step Value)
  /-- A drawing step of no kind. -/
  | bareStep
  /-- A kind of drawing steps in place of a step; none is the common kind of all steps. -/
  | stepClass (kind : Option StepKind)
  | raw (v : Value)
  | point (p : Point Value)
  | size (s : Size Value)
  | rect (r : Rect Value)
  | color (c : Color Value)
  | transform (t : Transform Value)
  | route (items : List Item) (bounds : Rect Value)
  | image (name : String) (items : List Item) (bounds : Rect Value)
  | generator (g : Generator)
  | settings (s : Settings)

/-- Items in drawing order with the bounds of the image. -/
structure Route where
  items : List Item
  bounds : Rect Value

structure Image where
  name : String
  route : Route

/-- The name of the common kind of all drawing steps. -/
def bareStepName : String := "DrawStep"

namespace Item

/-- The name of the kind of an item, as messages show it. -/
def typeName : Item → String
  | step s => s.kind.name
  | bareStep => bareStepName
  | stepClass _ => "ABCMeta"
  | raw v => v.typeName
  | point _ => "Point"
  | size _ => "Size"
  | rect _ => "Rect"
  | color _ => "RGBColor"
  | transform _ => "AffineTransform"
  | route .. => "DrawRoute"
  | image .. => "NamedImage"
  | generator g => g.name
  | settings _ => "GeneratorConfig"

/-- Whether an item is a drawing step, of a kind or of none. -/
def isStep : Item → Bool
  | step _ | bareStep => true
  | _ => false

def isColor : Item → Bool
  | step s => s.isColor
  | _ => false

end Item

end DrawingCode
