/-! # Geometry

Points, sizes, rectangles, transforms and colours over an arbitrary kind of coordinate: drawings are
handed in over values of any kind, and code is generated from drawings over doubles. `mapM` takes
the coordinates in the order in which code lists them, so the first one that fails decides.
-/

namespace DrawingCode

structure Point (α : Type) where
  x : α
  y : α

structure Size (α : Type) where
  width : α
  height : α

/-- A rectangle parallel to the axes, given by its origin and its size. -/
structure Rect (α : Type) where
  x : α
  y : α
  width : α
  height : α

/-- An affine map of the plane, given by the rows of its matrix. -/
structure Transform (α : Type) where
  a : α
  b : α
  c : α
  d : α
  tx : α
  ty : α

structure Color (α : Type) where
  red : α
  green : α
  blue : α

section

variable {α β : Type} {m : Type → Type} [Monad m]

/-- Converts the coordinates of a point, x before y. -/
def Point.mapM (f : α → m β) (p : Point α) : m (Point β) :=
  return ⟨← f p.x, ← f p.y⟩

/-- Converts a size, the width before the height. -/
def Size.mapM (f : α → m β) (s : Size α) : m (Size β) :=
  return ⟨← f s.width, ← f s.height⟩

/-- Converts a rectangle, the origin before the size. -/
def Rect.mapM (f : α → m β) (r : Rect α) : m (Rect β) :=
  return ⟨← f r.x, ← f r.y, ← f r.width, ← f r.height⟩

/-- Converts a transform, row by row. -/
def Transform.mapM (f : α → m β) (t : Transform α) : m (Transform β) :=
  return ⟨← f t.a, ← f t.b, ← f t.c, ← f t.d, ← f t.tx, ← f t.ty⟩

/-- Converts a colour, red before green before blue. -/
def Color.mapM (f : α → m β) (c : Color α) : m (Color β) :=
  return ⟨← f c.red, ← f c.green, ← f c.blue⟩

end

namespace Rect

variable {α : Type}

def origin (r : Rect α) : Point α := ⟨r.x, r.y⟩

def size (r : Rect α) : Size α := ⟨r.width, r.height⟩

end Rect

def Transform.identity {α : Type} (zero one : α) : Transform α := ⟨one, zero, zero, one, zero, zero⟩

end DrawingCode
