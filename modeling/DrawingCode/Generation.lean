import DrawingCode.Code
import DrawingCode.Drawing.Item
import DrawingCode.Run

/-! # Generating code

Code for an image is an opening, the code of its items and a closing; a file is a preamble and the
code of its images with a blank line between them. The implementation generator takes a fresh number
for every colour, before it looks at the components of the colour. The header generator looks at the
size of an image but not into its steps.
-/

namespace DrawingCode

namespace Generator

def command (generator : Generator) (item : Item) (issued : Nat) : Run (List String) :=
  match generator, item with
  | implementation _, .step s =>
    let taken := if s.isColor then issued + 1 else issued
    match s.mapM Value.toDouble with
    | .ok converted => .done ((Code.statements issued converted).map (·.line)) taken
    | .error e => .failed (.number e) taken
  | implementation _, other => .failed (.unsupported other.typeName) issued
  | header .., item =>
    if item.isStep then .done [] issued else .failed (.unsupported item.typeName) issued

/-- The lines before the items of an image. -/
def opening (generator : Generator) (imageName : String) (size : Size Value) :
    Except Failure (List String) :=
  match generator with
  | implementation settings =>
    .ok [Code.functionHead settings.functionPrefix imageName ++ " \x7b",
      Code.Statement.createSpace.line]
  | header functionPrefix _ =>
    match size.mapM Value.toDouble with
    | .ok converted =>
      .ok ["static const CGSize " ++ Code.sizeConstantName imageName ++
          " = (CGSize)\x7b.width = " ++ converted.width.text ++
          ", .height = " ++ converted.height.text ++ "\x7d;",
        Code.functionHead functionPrefix imageName ++ ";"]
    | .error e => .error (.number e)

/-- The lines after the items of an image. -/
def closing : Generator → List String
  | implementation _ => [Code.Statement.releaseSpace.line, "\x7d"]
  | header .. => []

def body (generator : Generator) : List Item → Nat → Run (List String)
  | [], issued => .done [] issued
  | item :: rest, issued =>
    (generator.command item issued).andThen fun lines afterItem =>
      (generator.body rest afterItem).map (lines ++ ·)

def imageFunction (generator : Generator) (image : Image) (issued : Nat) : Run (List String) :=
  (Run.ofExcept (generator.opening image.name image.route.bounds.size) issued).andThen
    fun start afterOpening =>
      (generator.body image.route.items afterOpening).map
        fun lines => start ++ lines ++ generator.closing

/-- The lines for every image, with a log record for each image that is complete. -/
def blocks (generator : Generator) : List Image → Nat → Run (List (List String))
  | [], issued => .done [] issued
  | image :: rest, issued =>
    (generator.imageFunction image issued).andThen fun lines afterImage =>
      (Run.mk (.ok ()) afterImage [.imageEmitted image.name image.route.items.length lines.length
        (afterImage - issued)]).andThen fun _ _ =>
          (generator.blocks rest afterImage).map (lines :: ·)

/-- The text of a file whose images have the given lines. -/
def fileText (generator : Generator) (blocks : List (List String)) : String :=
  Code.filePreamble generator ++ "\n\n".intercalate (blocks.map ("\n".intercalate ·)) ++ "\n"

def file (generator : Generator) (images : List Image) (issued : Nat) : Run String :=
  (generator.blocks images issued).andThen fun blocks afterImages =>
    ⟨.ok (generator.fileText blocks), afterImages, [.fileGenerated generator.name blocks.length]⟩

end Generator

/-- A header and the implementation of what it declares. -/
structure Sources where
  header : String
  implementation : String
deriving DecidableEq

/-- The header and the implementation for a list of images, in this order, each from a generator of
its own and with numbers of its own. -/
def Sources.generate (images : List Image) (functionPrefix : String := "")
    (headerPath : Option String := none) (toolName : String := defaultToolName) : Run Sources :=
  ((Generator.header functionPrefix toolName).file images 0).andThen fun header _ =>
    ((Generator.implementation ⟨functionPrefix, headerPath, toolName⟩).file images 0).map
      fun implementation => ⟨header, implementation⟩

/-- The header and the implementation for a list of images with some settings. -/
def Settings.sources (settings : Settings) (images : List Image) : Run Sources :=
  Sources.generate images settings.functionPrefix settings.headerPath settings.toolName

end DrawingCode
