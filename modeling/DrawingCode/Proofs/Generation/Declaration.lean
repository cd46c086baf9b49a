import DrawingCode.Proofs.Generation.Emission

/-! # What a header declares

A run of the header generator succeeds exactly if the size of every image converts to doubles and
whatever stands in the routes is a step. It then has two lines for each image, the size constant and
the prototype, and takes no number.
-/

namespace DrawingCode

/-- What is declared for an image: its name and its size over doubles. -/
structure Declaration where
  name : String
  size : Size Double

/-- An image has a declaration: its size converts, and its items are steps, of whatever kind. -/
structure Image.Declares (image : Image) (declaration : Declaration) : Prop where
  name : image.name = declaration.name
  size : image.route.bounds.size.mapM Value.toDouble = .ok declaration.size
  steps : ∀ item ∈ image.route.items, item.isStep

def Declaration.lines (functionPrefix : String) (declaration : Declaration) : List String :=
  Code.declarationLines functionPrefix declaration.name declaration.size

namespace Generator

variable {functionPrefix toolName : String} {issued left : Nat} {lines : List String}

theorem header_command_returns_iff {item : Item} :
    ((header functionPrefix toolName).command item issued).Returns lines left ↔
      item.isStep ∧ lines = [] ∧ left = issued := by
  simp only [command]
  split_ifs with step
  · rw [Run.returns_done_iff, and_iff_right step]
  · exact iff_of_false Run.not_returns_failed fun claimed => step claimed.1

private theorem header_body_returns_iff {items : List Item} :
    ((header functionPrefix toolName).body items issued).Returns lines left ↔
      (∀ item ∈ items, item.isStep) ∧ lines = [] ∧ left = issued := by
  induction items generalizing lines issued with
  | nil => rw [body, Run.returns_done_iff, and_iff_right (List.forall_mem_nil _)]
  | cons item rest ih =>
    rw [body, Run.returns_andThen_iff, List.forall_mem_cons]
    constructor
    · rintro ⟨_, _, here, later⟩
      obtain ⟨step, rfl, rfl⟩ := header_command_returns_iff.mp here
      obtain ⟨_, tail, rfl⟩ := Run.returns_map_iff.mp later
      obtain ⟨steps, rfl, rfl⟩ := ih.mp tail
      exact ⟨⟨step, steps⟩, rfl, rfl⟩
    · rintro ⟨⟨step, steps⟩, rfl, rfl⟩
      exact ⟨[], left, header_command_returns_iff.mpr ⟨step, rfl, rfl⟩, Run.returns_map_iff.mpr
        ⟨[], ih.mpr ⟨steps, rfl, rfl⟩, rfl⟩⟩

/-- A header has two lines for an image and takes no number. -/
theorem header_imageFunction_returns_iff {image : Image} :
    ((header functionPrefix toolName).imageFunction image issued).Returns lines left ↔
      ∃ declaration, image.Declares declaration ∧
        lines = declaration.lines functionPrefix ∧ left = issued := by
  rw [imageFunction_returns_iff_body]
  constructor
  · rintro ⟨_, ⟨start, opened, rfl⟩, inside⟩
    obtain ⟨steps, rfl, rfl⟩ := header_body_returns_iff.mp inside
    simp only [opening] at opened
    split at opened
    · rename_i size converted
      cases opened
      exact ⟨⟨image.name, size⟩, ⟨rfl, converted, steps⟩, rfl, rfl⟩
    · cases opened
  · rintro ⟨⟨_, size⟩, ⟨rfl, converted, steps⟩, rfl, rfl⟩
    have opened : (header functionPrefix toolName).opening image.name image.route.bounds.size =
        .ok (Code.declarationLines functionPrefix image.name size) := by
      simp only [opening, converted]
      rfl
    exact ⟨[], ⟨_, opened, rfl⟩, header_body_returns_iff.mpr ⟨steps, rfl, rfl⟩⟩

theorem header_blocks_returns_iff {images : List Image} {blocks : List (List String)} :
    ((header functionPrefix toolName).blocks images issued).Returns blocks left ↔
      ∃ declarations, List.Forall₂ Image.Declares images declarations ∧
        blocks = declarations.map (·.lines functionPrefix) ∧ left = issued := by
  induction images generalizing blocks issued with
  | nil =>
    rw [Generator.blocks, Run.returns_done_iff]
    constructor
    · rintro ⟨rfl, rfl⟩
      exact ⟨[], .nil, rfl, rfl⟩
    · rintro ⟨_, ⟨⟩, rfl, rfl⟩
      exact ⟨rfl, rfl⟩
  | cons image rest ih =>
    rw [blocks_cons_returns_iff]
    constructor
    · rintro ⟨_, _, _, here, later, rfl⟩
      obtain ⟨declaration, declares, rfl, rfl⟩ := header_imageFunction_returns_iff.mp here
      obtain ⟨declarations, all, rfl, rfl⟩ := ih.mp later
      exact ⟨declaration :: declarations, .cons declares all, rfl, rfl⟩
    · rintro ⟨_, ⟨⟩ | ⟨declares, all⟩, rfl, rfl⟩
      exact ⟨_, left, _, header_imageFunction_returns_iff.mpr ⟨_, declares, rfl, rfl⟩,
        ih.mpr ⟨_, all, rfl, rfl⟩, rfl⟩

/-- A header succeeds exactly if all images have declarations, and then its text lists these. -/
theorem header_file_returns_iff {images : List Image} {text : String} :
    ((header functionPrefix toolName).file images issued).Returns text left ↔
      ∃ declarations, List.Forall₂ Image.Declares images declarations ∧
        text = (header functionPrefix toolName).fileText
          (declarations.map (·.lines functionPrefix)) ∧ left = issued := by
  rw [file_returns_iff]
  constructor
  · rintro ⟨_, here, rfl⟩
    obtain ⟨declarations, declares, rfl, rfl⟩ := header_blocks_returns_iff.mp here
    exact ⟨declarations, declares, rfl, rfl⟩
  · rintro ⟨declarations, declares, rfl, rfl⟩
    exact ⟨_, header_blocks_returns_iff.mpr ⟨declarations, declares, rfl, rfl⟩, rfl⟩

end Generator

end DrawingCode
