import DrawingCode.Drawing.Item
import DrawingCode.Value.Basic

/-! # The text of an item

Items are shown by the name of their kind and their named fields in brackets. Items of a route stand
in round brackets, with a comma after an item that is alone.
-/

namespace DrawingCode

/-- The text of a record: its kind and its fields. -/
def recordText (kind : String) (fields : List (String × String)) : String :=
  kind ++ "(" ++ ", ".intercalate (fields.map fun field => field.1 ++ "=" ++ field.2) ++ ")"

def Point.written (p : Point Value) : String :=
  recordText "Point" [("x", p.x.written), ("y", p.y.written)]

def Size.written (s : Size Value) : String :=
  recordText "Size" [("width", s.width.written), ("height", s.height.written)]

def Rect.written (r : Rect Value) : String :=
  recordText "Rect" [("x", r.x.written), ("y", r.y.written), ("width", r.width.written),
    ("height", r.height.written)]

def Color.written (c : Color Value) : String :=
  recordText "RGBColor" [("red", c.red.written), ("green", c.green.written),
    ("blue", c.blue.written)]

def Transform.written (t : Transform Value) : String :=
  recordText "AffineTransform" [("a", t.a.written), ("b", t.b.written), ("c", t.c.written),
    ("d", t.d.written), ("tx", t.tx.written), ("ty", t.ty.written)]

def Step.writtenFields : Step Value → List (String × String)
  | .moveTo point | .line point => [("point", point.written)]
  | .curve first second target =>
    [("c1", first.written), ("c2", second.written), ("end", target.written)]
  | .clip rule | .fill rule => [("rule", Text.quoted rule.name)]
  | .flatness value | .lineWidth value => [("value", value.written)]
  | .nonStrokeColor color | .strokeColor color => [("color", color.written)]
  | .appendRectangle rect => [("rect", rect.written)]
  | .concatCTM transform => [("transform", transform.written)]
  | .saveGState | .restoreGState | .closePath | .endPath | .nonStrokeColorSpace
  | .strokeColorSpace | .stroke => []

def Step.written (s : Step Value) : String := recordText s.kind.name s.writtenFields

def writtenOption : Option String → String
  | some s => Text.quoted s
  | none => Value.null.written

def Settings.writtenFields (s : Settings) : List (String × String) :=
  [("prefix", Text.quoted s.functionPrefix), ("header_import_path", writtenOption s.headerPath),
    ("tool_name", Text.quoted s.toolName)]

def Settings.written (s : Settings) : String := recordText "GeneratorConfig" s.writtenFields

def Generator.written (g : Generator) : String :=
  recordText g.name (match g with
    | .implementation settings => settings.writtenFields
    | .header functionPrefix toolName =>
      [("prefix", Text.quoted functionPrefix), ("tool_name", Text.quoted toolName)])

/-- The text of a sequence in round brackets. -/
def tupleText : List String → String
  | [only] => "(" ++ only ++ ",)"
  | items => "(" ++ ", ".intercalate items ++ ")"

/-- The text of a route whose items have the given texts. -/
def routeText (items : List String) (bounds : Rect Value) : String :=
  recordText "DrawRoute" [("steps", tupleText items), ("bounding_rect", bounds.written)]

namespace Item

mutual

def written : Item → String
  | step s => s.written
  | bareStep => recordText bareStepName []
  | stepClass kind =>
    "<class 'cggen.draw_ir.steps." ++ (kind.map (·.name)).getD bareStepName ++ "'>"
  | raw v => v.written
  | point p => p.written
  | size s => s.written
  | rect r => r.written
  | color c => c.written
  | transform t => t.written
  | route items bounds => routeText (writtenAll items) bounds
  | image name items bounds =>
    recordText "NamedImage"
      [("name", Text.quoted name), ("route", routeText (writtenAll items) bounds)]
  | generator g => g.written
  | settings s => s.written

def writtenAll : List Item → List String
  | [] => []
  | item :: rest => item.written :: writtenAll rest

end

end Item

end DrawingCode
