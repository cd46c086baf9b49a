import DrawingCode.Generation
import DrawingCode.Proofs.Run
import Mathlib.Data.List.Forall2

/-! # What a generator emits when it succeeds

A run of the implementation generator succeeds exactly if every item is a step that converts to
doubles, and then its lines are the statements of the converted steps, numbered from the count that
the run starts with. Each level of generation has one statement that says both.
-/

namespace DrawingCode

section Conversion

variable {ε α β : Type}

theorem exists_ok_of_bind_ok {first : Except ε α} {next : α → Except ε β} {b : β}
    (success : (first >>= next) = .ok b) : ∃ a, first = .ok a ∧ next a = .ok b := by
  cases first with
  | ok a => exact ⟨a, rfl, success⟩
  | error e => cases success

/-- Conversion changes coordinates but not the kind of a step. -/
theorem Step.kind_of_mapM {f : α → Except ε β} {s : Step α} {t : Step β}
    (converted : s.mapM f = .ok t) : t.kind = s.kind := by
  cases s with
  | saveGState | restoreGState | closePath | clip | endPath | nonStrokeColorSpace | fill
  | strokeColorSpace | stroke =>
    cases converted
    rfl
  | moveTo | line | flatness | nonStrokeColor | appendRectangle | strokeColor | concatCTM
  | lineWidth =>
    obtain ⟨_, _, same⟩ := exists_ok_of_bind_ok converted
    cases same
    rfl
  | curve =>
    obtain ⟨_, _, afterFirst⟩ := exists_ok_of_bind_ok converted
    obtain ⟨_, _, afterSecond⟩ := exists_ok_of_bind_ok afterFirst
    obtain ⟨_, _, same⟩ := exists_ok_of_bind_ok afterSecond
    cases same
    rfl

theorem Step.isColor_eq (s : Step α) :
    s.isColor = decide (s.kind = .nonStrokeColor ∨ s.kind = .strokeColor) := by
  cases s <;> rfl

theorem Step.isMarker_eq (s : Step α) : s.isMarker =
    decide (s.kind = .endPath ∨ s.kind = .nonStrokeColorSpace ∨ s.kind = .strokeColorSpace) := by
  cases s <;> rfl

end Conversion

/-- The step over doubles that code is generated from, if an item is a step and has one. -/
def Item.drawable? : Item → Option (Step Double)
  | .step s => (s.mapM Value.toDouble).toOption
  | _ => none

/-- What is drawn for an image: its name and its steps over doubles. -/
structure Drawing where
  name : String
  steps : List (Step Double)

/-- An image converts to a drawing, step by step. -/
structure Image.Draws (image : Image) (drawing : Drawing) : Prop where
  name : image.name = drawing.name
  steps : List.Forall₂ (fun item s => item.drawable? = some s) image.route.items drawing.steps

theorem Item.drawable?_eq_some_iff {item : Item} {t : Step Double} :
    item.drawable? = some t ↔ ∃ s, item = .step s ∧ s.mapM Value.toDouble = .ok t := by
  constructor
  · intro drawable
    cases item with
    | step s =>
      refine ⟨s, rfl, ?_⟩
      cases converted : s.mapM Value.toDouble with
      | ok _ =>
        simp only [drawable?, converted] at drawable
        cases drawable
        rfl
      | error _ =>
        simp only [drawable?, converted] at drawable
        cases drawable
    | _ => cases drawable
  · rintro ⟨s, rfl, converted⟩
    simp only [drawable?, converted]
    rfl

namespace Code

/-- How many numbers a step takes. -/
def idCount {α : Type} (s : Step α) : Nat := if s.isColor then 1 else 0

/-- The statements for the steps of a drawing, numbered from `id`. -/
def bodyStatements : Nat → List (Step Double) → List Statement
  | _, [] => []
  | id, s :: rest => statements id s ++ bodyStatements (id + idCount s) rest

/-- How many numbers the steps of a drawing take. -/
def idTotal : List (Step Double) → Nat
  | [] => 0
  | s :: rest => idCount s + idTotal rest

/-- How many numbers drawings take. -/
def drawingsTotal : List Drawing → Nat
  | [] => 0
  | drawing :: rest => idTotal drawing.steps + drawingsTotal rest

/-- The lines of a function: its head, the statements between making and releasing the colour
space, and its end. -/
def functionLines (functionPrefix imageName : String) (body : List Statement) : List String :=
  (functionHead functionPrefix imageName ++ " \x7b") :: Statement.createSpace.line ::
    (body.map (·.line) ++ [Statement.releaseSpace.line, "\x7d"])

/-- The lines of a declaration: the size of an image and the head of its function. -/
def declarationLines (functionPrefix imageName : String) (size : Size Double) : List String :=
  ["static const CGSize " ++ sizeConstantName imageName ++ " = (CGSize)\x7b.width = " ++
      size.width.text ++ ", .height = " ++ size.height.text ++ "\x7d;",
    functionHead functionPrefix imageName ++ ";"]

/-- The lines of the functions for drawings, numbered from `id`. -/
def functionBlocks (functionPrefix : String) : Nat → List Drawing → List (List String)
  | _, [] => []
  | id, drawing :: rest =>
    functionLines functionPrefix drawing.name (bodyStatements id drawing.steps) ::
      functionBlocks functionPrefix (id + idTotal drawing.steps) rest

end Code

namespace Generator

variable {settings : Settings}

theorem command_returns_iff {item : Item} {issued left : Nat} {lines : List String} :
    ((implementation settings).command item issued).Returns lines left ↔
      ∃ s, item.drawable? = some s ∧ lines = (Code.statements issued s).map (·.line) ∧
        left = issued + Code.idCount s := by
  cases item with
  | step s =>
    cases converted : s.mapM Value.toDouble with
    | ok t =>
      have color : t.isColor = s.isColor := by
        rw [t.isColor_eq, s.isColor_eq, Step.kind_of_mapM converted]
      have drawable : (Item.step s).drawable? = some t :=
        Item.drawable?_eq_some_iff.mpr ⟨s, rfl, converted⟩
      have count : (if s.isColor then issued + 1 else issued) = issued + Code.idCount t := by
        rw [Code.idCount, color]
        split_ifs <;> rfl
      simp only [command, converted, count, Run.returns_done_iff, drawable, Option.some.injEq,
        exists_eq_left']
    | error e =>
      have drawable : (Item.step s).drawable? = none := by
        simp only [Item.drawable?, converted]
        rfl
      simp only [command, converted, drawable, Run.not_returns_failed, reduceCtorEq, false_and,
        exists_false]
  | _ => simp only [command, Item.drawable?, Run.not_returns_failed, reduceCtorEq, false_and,
      exists_false]

private theorem body_returns_iff {items : List Item} {issued left : Nat} {lines : List String} :
    ((implementation settings).body items issued).Returns lines left ↔
      ∃ steps, List.Forall₂ (fun item s => item.drawable? = some s) items steps ∧
        lines = (Code.bodyStatements issued steps).map (·.line) ∧
        left = issued + Code.idTotal steps := by
  induction items generalizing issued lines with
  | nil =>
    rw [body, Run.returns_done_iff]
    constructor
    · rintro ⟨rfl, rfl⟩
      exact ⟨[], .nil, rfl, rfl⟩
    · rintro ⟨_, ⟨⟩, rfl, rfl⟩
      exact ⟨rfl, rfl⟩
  | cons item rest ih =>
    rw [body, Run.returns_andThen_iff]
    constructor
    · rintro ⟨_, middle, here, later⟩
      obtain ⟨s, drawable, rfl, rfl⟩ := command_returns_iff.mp here
      obtain ⟨_, tail, rfl⟩ := Run.returns_map_iff.mp later
      obtain ⟨steps, drawables, rfl, rfl⟩ := ih.mp tail
      refine ⟨s :: steps, .cons drawable drawables, ?_, ?_⟩
      · rw [Code.bodyStatements, List.map_append]
      · rw [Code.idTotal, Nat.add_assoc]
    · rintro ⟨_, ⟨⟩ | ⟨drawable, drawables⟩, rfl, rfl⟩
      rename_i s steps
      refine ⟨_, _, command_returns_iff.mpr ⟨s, drawable, rfl, rfl⟩, Run.returns_map_iff.mpr
        ⟨_, ih.mpr ⟨steps, drawables, rfl, ?_⟩, ?_⟩⟩
      · rw [Code.idTotal, Nat.add_assoc]
      · rw [Code.bodyStatements, List.map_append]

/-- The lines for an image are put around the lines for its items. -/
def IsFunction (generator : Generator) (name : String) (size : Size Value)
    (body lines : List String) : Prop :=
  ∃ start, generator.opening name size = .ok start ∧ lines = start ++ body ++ generator.closing

/-- The run for an image succeeds if it can be opened and the run for its items succeeds. -/
theorem imageFunction_returns_iff_body {generator : Generator} {image : Image} {issued left : Nat}
    {lines : List String} : (generator.imageFunction image issued).Returns lines left ↔
      ∃ body, generator.IsFunction image.name image.route.bounds.size body lines ∧
        (generator.body image.route.items issued).Returns body left := by
  rw [imageFunction, Run.returns_andThen_iff]
  constructor
  · rintro ⟨start, _, ⟨opened, rfl⟩, later⟩
    obtain ⟨body, inside, rfl⟩ := Run.returns_map_iff.mp later
    exact ⟨body, ⟨start, opened, rfl⟩, inside⟩
  · rintro ⟨body, ⟨start, opened, rfl⟩, inside⟩
    exact ⟨start, issued, ⟨opened, rfl⟩, Run.returns_map_iff.mpr ⟨body, inside, rfl⟩⟩

theorem imageFunction_returns_iff {image : Image} {issued left : Nat} {lines : List String} :
    ((implementation settings).imageFunction image issued).Returns lines left ↔
      ∃ drawing, image.Draws drawing ∧
        lines = Code.functionLines settings.functionPrefix drawing.name
          (Code.bodyStatements issued drawing.steps) ∧
        left = issued + Code.idTotal drawing.steps := by
  rw [imageFunction_returns_iff_body]
  constructor
  · rintro ⟨_, ⟨start, opened, rfl⟩, inside⟩
    obtain ⟨steps, drawables, rfl, rfl⟩ := body_returns_iff.mp inside
    cases opened
    exact ⟨⟨image.name, steps⟩, ⟨rfl, drawables⟩, rfl, rfl⟩
  · rintro ⟨⟨_, steps⟩, ⟨rfl, drawables⟩, rfl, rfl⟩
    exact ⟨_, ⟨_, rfl, rfl⟩, body_returns_iff.mpr ⟨steps, drawables, rfl, rfl⟩⟩

/-- A file has the lines of its first image before those of the others, whatever the generator. -/
theorem blocks_cons_returns_iff {generator : Generator} {image : Image} {rest : List Image}
    {issued left : Nat} {blocks : List (List String)} :
    (generator.blocks (image :: rest) issued).Returns blocks left ↔
      ∃ lines middle tail, (generator.imageFunction image issued).Returns lines middle ∧
        (generator.blocks rest middle).Returns tail left ∧ blocks = lines :: tail := by
  rw [Generator.blocks, Run.returns_andThen_iff]
  constructor
  · rintro ⟨lines, middle, here, later⟩
    obtain ⟨_, _, _, afterRecord⟩ := Run.returns_andThen_iff.mp later
    obtain ⟨tail, returns, rfl⟩ := Run.returns_map_iff.mp afterRecord
    exact ⟨lines, middle, tail, here, returns, rfl⟩
  · rintro ⟨lines, middle, tail, here, returns, rfl⟩
    exact ⟨lines, middle, here, Run.returns_andThen_iff.mpr
      ⟨(), middle, ⟨rfl, rfl⟩, Run.returns_map_iff.mpr ⟨tail, returns, rfl⟩⟩⟩

theorem blocks_returns_iff {images : List Image} {issued left : Nat}
    {blocks : List (List String)} :
    ((implementation settings).blocks images issued).Returns blocks left ↔
      ∃ drawings, List.Forall₂ Image.Draws images drawings ∧
        blocks = Code.functionBlocks settings.functionPrefix issued drawings ∧
        left = issued + Code.drawingsTotal drawings := by
  induction images generalizing issued blocks with
  | nil =>
    rw [Generator.blocks, Run.returns_done_iff]
    constructor
    · rintro ⟨rfl, rfl⟩
      exact ⟨[], .nil, rfl, rfl⟩
    · rintro ⟨_, ⟨⟩, rfl, rfl⟩
      exact ⟨rfl, rfl⟩
  | cons image rest ih =>
    rw [blocks_cons_returns_iff]
    constructor
    · rintro ⟨_, middle, _, here, later, rfl⟩
      obtain ⟨drawing, draws, rfl, rfl⟩ := imageFunction_returns_iff.mp here
      obtain ⟨drawings, all, rfl, rfl⟩ := ih.mp later
      refine ⟨drawing :: drawings, .cons draws all, rfl, ?_⟩
      rw [Code.drawingsTotal, Nat.add_assoc]
    · rintro ⟨_, ⟨⟩ | ⟨draws, all⟩, rfl, rfl⟩
      rename_i drawing drawings
      refine ⟨_, _, _, imageFunction_returns_iff.mpr ⟨drawing, draws, rfl, rfl⟩,
        ih.mpr ⟨drawings, all, rfl, ?_⟩, rfl⟩
      rw [Code.drawingsTotal, Nat.add_assoc]

/-- A file is put together from the blocks of its images, whatever the generator. -/
theorem file_returns_iff {generator : Generator} {images : List Image} {issued left : Nat}
    {text : String} :
    (generator.file images issued).Returns text left ↔
      ∃ blocks, (generator.blocks images issued).Returns blocks left ∧
        text = generator.fileText blocks := by
  rw [file, Run.returns_andThen_iff]
  constructor
  · rintro ⟨blocks, _, here, ⟨same, rfl⟩⟩
    exact ⟨blocks, here, (Except.ok.inj same).symm⟩
  · rintro ⟨blocks, here, rfl⟩
    exact ⟨blocks, left, here, ⟨rfl, rfl⟩⟩

/-- An implementation file succeeds exactly if all images convert to drawings, and then its text has
the functions for the drawings. -/
theorem implementation_file_returns_iff {images : List Image} {issued left : Nat} {text : String} :
    ((implementation settings).file images issued).Returns text left ↔
      ∃ drawings, List.Forall₂ Image.Draws images drawings ∧
        text = (implementation settings).fileText
          (Code.functionBlocks settings.functionPrefix issued drawings) ∧
        left = issued + Code.drawingsTotal drawings := by
  rw [file_returns_iff]
  constructor
  · rintro ⟨_, here, rfl⟩
    obtain ⟨drawings, draws, rfl, rfl⟩ := blocks_returns_iff.mp here
    exact ⟨drawings, draws, rfl, rfl⟩
  · rintro ⟨drawings, draws, rfl, rfl⟩
    exact ⟨_, blocks_returns_iff.mpr ⟨drawings, draws, rfl, rfl⟩, rfl⟩

end Generator

end DrawingCode
