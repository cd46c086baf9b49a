import DrawingCode.Proofs.Generation.Declaration

/-! # What the files depend on

The implementation is generated from the names and the items of the images and the header from their
names and sizes. Two runs on images that agree in this part cannot be told apart, whatever else
stands in the images. For the implementation this includes runs that fail.
-/

namespace DrawingCode

/-- Images of the same name with the same items, within whatever bounds. -/
structure Image.SameDrawing (image other : Image) : Prop where
  name : image.name = other.name
  items : image.route.items = other.route.items

/-- Images of the same name whose sizes convert to the same doubles, with whatever steps. -/
structure Image.SameDeclaration (image other : Image) : Prop where
  name : image.name = other.name
  width : ∃ width, image.route.bounds.width.toDouble = .ok width ∧
    other.route.bounds.width.toDouble = .ok width
  height : ∃ height, image.route.bounds.height.toDouble = .ok height ∧
    other.route.bounds.height.toDouble = .ok height
  steps : ∀ item ∈ image.route.items, item.isStep
  otherSteps : ∀ item ∈ other.route.items, item.isStep

private theorem Image.SameDeclaration.exists_declares {image other : Image}
    (same : image.SameDeclaration other) :
    ∃ declaration, image.Declares declaration ∧ other.Declares declaration := by
  obtain ⟨width, wide, otherWide⟩ := same.width
  obtain ⟨height, high, otherHigh⟩ := same.height
  have size : image.route.bounds.size.mapM Value.toDouble = .ok ⟨width, height⟩ := by
    simp only [Size.mapM, Rect.size, wide, high]
    rfl
  have otherSize : other.route.bounds.size.mapM Value.toDouble = .ok ⟨width, height⟩ := by
    simp only [Size.mapM, Rect.size, otherWide, otherHigh]
    rfl
  exact ⟨⟨image.name, ⟨width, height⟩⟩, ⟨rfl, size, same.steps⟩,
    ⟨same.name.symm, otherSize, same.otherSteps⟩⟩

private theorem exists_declarations {images others : List Image}
    (same : List.Forall₂ Image.SameDeclaration images others) :
    ∃ declarations, List.Forall₂ Image.Declares images declarations ∧
      List.Forall₂ Image.Declares others declarations := by
  induction same with
  | nil => exact ⟨[], .nil, .nil⟩
  | cons here _ ih =>
    obtain ⟨declaration, declares, otherDeclares⟩ := here.exists_declares
    obtain ⟨declarations, declared, otherDeclared⟩ := ih
    exact ⟨declaration :: declarations, .cons declares declared, .cons otherDeclares otherDeclared⟩

namespace Generator

variable {settings : Settings} {functionPrefix toolName : String}

/-- The lines of a function do not depend on the bounds of the image. -/
theorem imageFunction_eq_of_sameDrawing {image other : Image} (same : image.SameDrawing other)
    (issued : Nat) : (implementation settings).imageFunction image issued =
      (implementation settings).imageFunction other issued := by
  rw [imageFunction, imageFunction, same.name, same.items]
  rfl

private theorem blocks_eq_of_sameDrawing {images others : List Image}
    (same : List.Forall₂ Image.SameDrawing images others) (issued : Nat) :
    (implementation settings).blocks images issued =
      (implementation settings).blocks others issued := by
  induction same generalizing issued with
  | nil => rfl
  | cons here _ ih =>
    simp only [Generator.blocks, imageFunction_eq_of_sameDrawing here, here.name, here.items, ih]

private theorem header_file_of_sameDeclaration {images others : List Image}
    (same : List.Forall₂ Image.SameDeclaration images others) :
    ∃ text, ∀ start otherStart,
      ((header functionPrefix toolName).file images start).Returns text start ∧
        ((header functionPrefix toolName).file others otherStart).Returns text otherStart := by
  obtain ⟨declarations, declared, otherDeclared⟩ := exists_declarations same
  exact ⟨_, fun start otherStart =>
    ⟨header_file_returns_iff.mpr ⟨declarations, declared, rfl, rfl⟩,
      header_file_returns_iff.mpr ⟨declarations, otherDeclared, rfl, rfl⟩⟩⟩

/-- Runs of the implementation generator on images with the same names and items are the same runs,
whether they succeed or fail. Runs of the header generator on images with the same names and sizes
succeed with the same text and take no number, whatever the steps are. -/
theorem files_depend_on_own_part (settings : Settings) (functionPrefix toolName : String)
    (images others : List Image) :
    (List.Forall₂ Image.SameDrawing images others → ∀ start,
      (implementation settings).file images start = (implementation settings).file others start) ∧
    (List.Forall₂ Image.SameDeclaration images others → ∃ text, ∀ start otherStart,
      ((header functionPrefix toolName).file images start).Returns text start ∧
        ((header functionPrefix toolName).file others otherStart).Returns text otherStart) := by
  constructor
  · intro same start
    rw [file, file, blocks_eq_of_sameDrawing same]
  · exact header_file_of_sameDeclaration

/-- A spot of a colour that does not convert, in bounds that do. -/
def colorSpot : Image :=
  ⟨"Spot", [.step (.strokeColor ⟨.bool true, .null, .bool true⟩)],
    ⟨.null, .text "left", .bool true, .double .one⟩⟩

/-- The same spot in bounds that do not convert. -/
def boundlessSpot : Image := ⟨"Spot", colorSpot.route.items, ⟨.null, .null, .null, .null⟩⟩

/-- A spot of the same size with other steps. -/
def bareSpot : Image :=
  ⟨"Spot", [.bareStep, .step (.lineWidth (.text "wide"))],
    ⟨.bool false, .bool false, .double .one, .bool true⟩⟩

/-- The implementation fails for the first spot as it does for the second, and the header is the
same for the first spot and for the third. -/
theorem files_depend_on_own_part_spots :
    List.Forall₂ Image.SameDrawing [colorSpot] [boundlessSpot] ∧
      List.Forall₂ Image.SameDeclaration [colorSpot] [bareSpot] ∧
      ((implementation {}).file [colorSpot] 3 = (implementation {}).file [boundlessSpot] 3 ∧
        ((implementation {}).file [colorSpot] 3).issued = 4) ∧
      ∃ text, ((header "" "cggen").file [colorSpot] 3).Returns text 3 ∧
        ((header "" "cggen").file [bareSpot] 0).Returns text 0 := by
  have drawing : List.Forall₂ Image.SameDrawing [colorSpot] [boundlessSpot] :=
    .cons ⟨rfl, rfl⟩ .nil
  have declaration : List.Forall₂ Image.SameDeclaration [colorSpot] [bareSpot] :=
    .cons ⟨rfl, ⟨.one, rfl, rfl⟩, ⟨.one, rfl, rfl⟩, List.forall_mem_singleton.mpr rfl,
      List.forall_mem_cons.mpr ⟨rfl, List.forall_mem_singleton.mpr rfl⟩⟩ .nil
  have implementations := (files_depend_on_own_part {} "" "cggen" _ _).1 drawing 3
  obtain ⟨text, headers⟩ := (files_depend_on_own_part {} "" "cggen" _ _).2 declaration
  exact ⟨drawing, declaration, ⟨implementations, rfl⟩, text, headers 3 0⟩

end Generator

end DrawingCode
