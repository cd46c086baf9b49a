import DrawingCode.Proofs.Code.Frames
import DrawingCode.Proofs.Generation.Numbering

/-! # Agreement of header and implementation

The header and the implementation of a list of images are generated apart from each other. Read line
by line, they still agree: image by image, the header declares the function that the implementation
defines, behind a constant for the size of the image. The names that the header declares clash only
if names of images do.
-/

namespace DrawingCode

private theorem map_eq_map_of_forall₂ {α β γ : Type} {related : α → β → Prop} {f : α → γ}
    {g : β → γ}
    {first : List α} {second : List β} (same : ∀ {a b}, related a b → f a = g b)
    (all : List.Forall₂ related first second) : first.map f = second.map g := by
  rw [← List.forall₂_eq_eq_eq, List.forall₂_map_left_iff, List.forall₂_map_right_iff]
  exact all.imp fun _ _ => same

namespace Code

variable {declarations : List Declaration}

private theorem constants_of_definesSize {functionPrefix : String} {constants : List String}
    (defined : List.Forall₂ (fun declaration name =>
      DefinesSize (declaredPair functionPrefix declaration).1 name) declarations constants) :
    constants = (declarations.map (·.name)).map sizeConstantName := by
  have same : declarations.map (fun declaration => sizeConstantName declaration.name) =
      constants.map id := by
    refine map_eq_map_of_forall₂ ?_ defined
    intro declaration name defines
    have here : DefinesSize (declaredPair functionPrefix declaration).1
        (sizeConstantName declaration.name) := ⟨declaration.size, rfl⟩
    exact here.unique defines
  rw [List.map_map, ← List.map_id constants, ← same]
  rfl

private theorem functions_of_declaresFunction {functionPrefix : String} {functions : List String}
    (declared : List.Forall₂ (fun declaration name =>
      DeclaresFunction (declaredPair functionPrefix declaration).2 name) declarations functions) :
    functions = (declarations.map (·.name)).map (functionName functionPrefix) := by
  have same : declarations.map (fun declaration => functionName functionPrefix declaration.name) =
      functions.map id := by
    refine map_eq_map_of_forall₂ ?_ declared
    intro declaration name declares
    have here : DeclaresFunction (declaredPair functionPrefix declaration).2
        (functionName functionPrefix declaration.name) := rfl
    exact here.unique declares
  rw [List.map_map, ← List.map_id functions, ← same]
  rfl

end Code

/-- What can be read off a header and an implementation that agree about a list of images. -/
structure Sources.Agree (functionPrefix : String) (images : List Image) (sources : Sources) :
    Prop where
  /-- The prototypes are the heads of the functions for the images, in order. -/
  prototypes : Code.functionStarts sources.header =
    images.map fun image => Code.functionHead functionPrefix image.name ++ ";"
  /-- The definitions have the same heads. -/
  definitions : Code.functionStarts sources.implementation =
    images.map fun image => Code.functionHead functionPrefix image.name ++ " \x7b"
  /-- Each prototype stands behind the constant for the size of its image. -/
  constants : List.Forall₂ (fun (image : Image) (pair : String × String) => ∃ width height,
      image.route.bounds.width.toDouble = .ok width ∧
        image.route.bounds.height.toDouble = .ok height ∧
        pair = (Code.sizeLine (Code.sizeConstantName image.name) ⟨width, height⟩,
          Code.functionHead functionPrefix image.name ++ ";"))
    images (Code.functionStartsBehind sources.header)
  /-- The names of the constants and functions that the header declares, read off its lines, clash
  only if names of images do. -/
  distinct : ∀ {constants functions : List String},
    List.Forall₂ (fun (pair : String × String) name => Code.DefinesSize pair.1 name)
      (Code.functionStartsBehind sources.header) constants →
    List.Forall₂ Code.DeclaresFunction (Code.functionStarts sources.header) functions →
      ((constants ++ functions).Nodup ↔ (images.map (·.name)).Nodup)

private theorem Image.Declares.converts {image : Image} {declaration : Declaration}
    (declares : image.Declares declaration) :
    image.route.bounds.width.toDouble = .ok declaration.size.width ∧
      image.route.bounds.height.toDouble = .ok declaration.size.height := by
  obtain ⟨width, wide, afterWidth⟩ := exists_ok_of_bind_ok declares.size
  obtain ⟨height, high, same⟩ := exists_ok_of_bind_ok afterWidth
  have size : declaration.size = ⟨width, height⟩ := (Except.ok.inj same).symm
  rw [size]
  exact ⟨wide, high⟩

theorem exists_importTarget {settings : Settings}
    (path : ∀ path ∈ settings.headerPath, '\n' ∉ path.toList) :
    ∃ target : String, '\n' ∉ target.toList ∧ Code.filePreamble (.implementation settings) =
      Code.preamble settings.toolName target := by
  rw [Code.filePreamble]
  cases given : settings.headerPath with
  | none => exact ⟨Code.libraryHeader, by decide, rfl⟩
  | some header => exact ⟨"\"" ++ header ++ "\"", by simp [path header given], rfl⟩

section Files

variable {settings : Settings} {images : List Image} {text : String} {issued left : Nat}

/-- The heads of the definitions can be read off an implementation. -/
theorem functionStarts_implementation (unbroken : '\n' ∉ settings.functionPrefix.toList)
    (tool : '\n' ∉ settings.toolName.toList)
    (path : ∀ path ∈ settings.headerPath, '\n' ∉ path.toList)
    (named : ∀ image ∈ images, '\n' ∉ image.name.toList)
    (returns : (settings.implementationGenerator.file images issued).Returns text left) :
    Code.functionStarts text =
      images.map fun image => Code.functionHead settings.functionPrefix image.name ++ " \x7b" := by
  obtain ⟨blocks, emitted, rfl⟩ := Generator.file_returns_iff.mp returns
  have whole := @Generator.blocks_isBlock settings.implementationGenerator _ _ _ _ unbroken named
    emitted
  obtain ⟨drawings, draws, rfl, _⟩ := Generator.blocks_returns_iff.mp emitted
  obtain ⟨target, imported, preamble⟩ := exists_importTarget path
  have text := Code.functionStarts_file tool imported whole
  rw [Code.filter_functionBlocks] at text
  rw [Generator.fileText, Settings.implementationGenerator, preamble]
  refine text.trans (map_eq_map_of_forall₂ ?_ draws).symm
  intro image drawing draws
  rw [draws.name]

/-- The prototypes can be read off a header, each of them behind a constant. -/
theorem functionStarts_header (unbroken : '\n' ∉ settings.functionPrefix.toList)
    (tool : '\n' ∉ settings.toolName.toList) (named : ∀ image ∈ images, '\n' ∉ image.name.toList)
    (returns : (settings.headerGenerator.file images issued).Returns text left) :
    ∃ declarations, List.Forall₂ Image.Declares images declarations ∧
      Code.functionStarts text = (declarations.map fun declaration =>
        (Code.declaredPair settings.functionPrefix declaration).2) ∧
      Code.functionStartsBehind text =
        declarations.map (Code.declaredPair settings.functionPrefix) := by
  obtain ⟨blocks, emitted, rfl⟩ := Generator.file_returns_iff.mp returns
  have whole := @Generator.blocks_isBlock settings.headerGenerator _ _ _ _ unbroken named emitted
  obtain ⟨declarations, declares, rfl, _⟩ := Generator.header_blocks_returns_iff.mp emitted
  have imported : '\n' ∉ Code.libraryHeader.toList := by decide
  refine ⟨declarations, declares, ?_, ?_⟩
  · refine (Code.functionStarts_file tool imported whole).trans ?_
    rw [List.flatMap_map]
    simp only [Code.filter_declarationLines]
    exact List.map_eq_flatMap.symm
  · exact (Code.functionStartsBehind_file tool imported whole).trans
      (Code.behind_declarations settings.functionPrefix "" declarations)

end Files

theorem Settings.sources_returns {settings : Settings} {images : List Image} {sources : Sources}
    (success : (settings.sources images).outcome = .ok sources) :
    ∃ middle left, (settings.headerGenerator.file images 0).Returns sources.header middle ∧
      (settings.implementationGenerator.file images 0).Returns sources.implementation left := by
  obtain ⟨header, middle, declared, later⟩ :=
    Run.returns_andThen_iff.mp (Run.returns_of_ok success)
  obtain ⟨implementation, defined, rfl⟩ := Run.returns_map_iff.mp later
  exact ⟨middle, _, declared, defined⟩

/-- The header and the implementation for a list of images declare and define the same functions,
one for each image, in order, and the header gives the size of each image before its function. The
names that it declares are distinct exactly if those of the images are. -/
theorem sources_agree {settings : Settings} {images : List Image} {sources : Sources}
    (unbroken : '\n' ∉ settings.functionPrefix.toList) (tool : '\n' ∉ settings.toolName.toList)
    (path : ∀ path ∈ settings.headerPath, '\n' ∉ path.toList)
    (named : ∀ image ∈ images, '\n' ∉ image.name.toList)
    (success : (settings.sources images).outcome = .ok sources) :
    sources.Agree settings.functionPrefix images := by
  obtain ⟨_, _, header, implementation⟩ := Settings.sources_returns success
  obtain ⟨declarations, declares, starts, pairs⟩ :=
    functionStarts_header unbroken tool named header
  have names : images.map (·.name) = declarations.map (·.name) :=
    map_eq_map_of_forall₂ (fun declares => declares.name) declares
  constructor
  · rw [starts]
    refine (map_eq_map_of_forall₂ ?_ declares).symm
    intro image declaration declares
    rw [declares.name]
    rfl
  · exact functionStarts_implementation unbroken tool path named implementation
  · rw [pairs, List.forall₂_map_right_iff]
    refine declares.imp ?_
    intro image declaration declares
    obtain ⟨width, height⟩ := declares.converts
    refine ⟨declaration.size.width, declaration.size.height, width, height, ?_⟩
    rw [declares.name]
    rfl
  · intro constants functions defined declared
    rw [pairs, List.forall₂_map_left_iff] at defined
    rw [starts, List.forall₂_map_left_iff] at declared
    rw [names, Code.constants_of_definesSize defined, Code.functions_of_declaresFunction declared]
    exact Code.nodup_declaredNames_iff

/-- Two images whose names look like code. -/
def oddImages : List Image :=
  [⟨"DrawImage \x7b", [.step .stroke, .step (.strokeColor ⟨.bool true, .bool false, .bool false⟩)],
      ⟨.null, .null, .bool true, .double (.zero true)⟩⟩,
    ⟨"void ", [], ⟨.null, .null, .double .nan, .bool false⟩⟩]

/-- The sources for the two images agree, under a prefix that looks like code as well. -/
theorem sources_agree_odd :
    '\n' ∉ "void ".toList ∧ '\n' ∉ "kImageSize".toList ∧
      (∀ path ∈ some "void Draw.h", '\n' ∉ path.toList) ∧
      (∀ image ∈ oddImages, '\n' ∉ image.name.toList) ∧
      ∃ sources, (Settings.sources ⟨"void ", some "void Draw.h", "kImageSize"⟩ oddImages).outcome =
        .ok sources ∧ sources.Agree "void " oddImages := by
  have unbroken : '\n' ∉ "void ".toList := by decide
  have tool : '\n' ∉ "kImageSize".toList := by decide
  have path : ∀ path ∈ some "void Draw.h", '\n' ∉ path.toList := by simp
  have named : ∀ image ∈ oddImages, '\n' ∉ image.name.toList := by simp [oddImages]
  have success : (Settings.sources ⟨"void ", some "void Draw.h", "kImageSize"⟩ oddImages).outcome =
      .ok _ := rfl
  exact ⟨unbroken, tool, path, named, _, success, sources_agree unbroken tool path named success⟩

end DrawingCode
