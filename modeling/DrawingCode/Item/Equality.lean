import DrawingCode.Drawing.Item
import DrawingCode.Value.Equality

/-! # Equality of items

Items are equal if they are of the same kind and their fields are equal as values.
-/

namespace DrawingCode

def Point.equal (p q : Point Value) : Bool := p.x.equal q.x && p.y.equal q.y

def Size.equal (s t : Size Value) : Bool := s.width.equal t.width && s.height.equal t.height

def Rect.equal (r s : Rect Value) : Bool :=
  r.x.equal s.x && r.y.equal s.y && r.width.equal s.width && r.height.equal s.height

def Color.equal (c d : Color Value) : Bool :=
  c.red.equal d.red && c.green.equal d.green && c.blue.equal d.blue

def Transform.equal (s t : Transform Value) : Bool :=
  s.a.equal t.a && s.b.equal t.b && s.c.equal t.c && s.d.equal t.d && s.tx.equal t.tx &&
    s.ty.equal t.ty

/-- Whether two steps are of the same kind and have equal fields. -/
def Step.equal : Step Value → Step Value → Bool
  | .moveTo p, .moveTo q | .line p, .line q => p.equal q
  | .curve p q r, .curve p' q' r' => p.equal p' && q.equal q' && r.equal r'
  | .clip p, .clip q | .fill p, .fill q => p == q
  | .flatness v, .flatness w | .lineWidth v, .lineWidth w => v.equal w
  | .nonStrokeColor c, .nonStrokeColor d | .strokeColor c, .strokeColor d => c.equal d
  | .appendRectangle r, .appendRectangle s => r.equal s
  | .concatCTM s, .concatCTM t => s.equal t
  | .saveGState, .saveGState | .restoreGState, .restoreGState | .closePath, .closePath
  | .endPath, .endPath | .nonStrokeColorSpace, .nonStrokeColorSpace
  | .strokeColorSpace, .strokeColorSpace | .stroke, .stroke => true
  | _, _ => false

namespace Item

mutual

def equal : Item → Item → Bool
  | step s, b => match b with
    | step t => s.equal t
    | _ => false
  | bareStep, b => (b matches bareStep)
  | stepClass k, b => match b with
    | stepClass l => k == l
    | _ => false
  | raw v, b => match b with
    | raw w => v.equal w
    | _ => false
  | point p, b => match b with
    | point q => p.equal q
    | _ => false
  | size s, b => match b with
    | size t => s.equal t
    | _ => false
  | rect r, b => match b with
    | rect s => r.equal s
    | _ => false
  | color c, b => match b with
    | color d => c.equal d
    | _ => false
  | transform s, b => match b with
    | transform t => s.equal t
    | _ => false
  | route items bounds, b => match b with
    | route items' bounds' => equalAll items items' && bounds.equal bounds'
    | _ => false
  | image name items bounds, b => match b with
    | image name' items' bounds' =>
      name == name' && equalAll items items' && bounds.equal bounds'
    | _ => false
  | generator g, b => match b with
    | generator h => g == h
    | _ => false
  | settings s, b => match b with
    | settings t => s == t
    | _ => false

/-- Whether two rows of items are equal, item by item. -/
def equalAll : List Item → List Item → Bool
  | [], others => others.isEmpty
  | item :: rest, others => match others with
    | [] => false
    | other :: more => item.equal other && equalAll rest more

end

end Item

end DrawingCode
