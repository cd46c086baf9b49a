import DrawingCode.Proofs.Code.Functions
import DrawingCode.Proofs.Generation.Declaration
import DrawingCode.Proofs.Resource.Body

/-! # Numbers that generation takes

A run never gives a number back, also where it fails. If it succeeds, the numbers that it has taken
are those of the colours that can be read off its lines, or off the text of its file, in order.
-/

namespace DrawingCode

namespace Generator

theorem le_issued_command (generator : Generator) (item : Item) (issued : Nat) :
    issued ≤ (generator.command item issued).issued := by
  cases generator with
  | implementation settings =>
    cases item with
    | step s =>
      have taken : issued ≤ if s.isColor then issued + 1 else issued := by
        split_ifs
        · exact Nat.le_succ issued
        · exact Nat.le_refl issued
      simp only [command]
      cases s.mapM Value.toDouble <;> exact taken
    | _ => exact Nat.le_refl issued
  | header functionPrefix toolName =>
    simp only [command]
    split_ifs <;> exact Nat.le_refl issued

private theorem le_issued_body (generator : Generator) (items : List Item) (issued : Nat) :
    issued ≤ (generator.body items issued).issued := by
  induction items generalizing issued with
  | nil => exact Nat.le_refl issued
  | cons item rest ih =>
    exact Run.le_issued_andThen (le_issued_command generator item issued) fun _ => ih _

theorem le_issued_imageFunction (generator : Generator) (image : Image) (issued : Nat) :
    issued ≤ (generator.imageFunction image issued).issued :=
  Run.le_issued_andThen (Nat.le_refl issued) fun _ => le_issued_body generator _ _

private theorem le_issued_blocks (generator : Generator) (images : List Image) (issued : Nat) :
    issued ≤ (generator.blocks images issued).issued := by
  induction images generalizing issued with
  | nil => exact Nat.le_refl issued
  | cons image rest ih =>
    exact Run.le_issued_andThen (le_issued_imageFunction generator image issued) fun _ =>
      Run.le_issued_andThen (Nat.le_refl _) fun _ => ih _

/-- No run of a generator gives a number back. -/
theorem le_issued_file (generator : Generator) (images : List Image) (issued : Nat) :
    issued ≤ (generator.file images issued).issued :=
  Run.le_issued_andThen (le_issued_blocks generator images issued) fun _ => Nat.le_refl _

end Generator

namespace Code

private theorem createdColors_append (first second : List String) :
    createdColors (first ++ second) = createdColors first ++ createdColors second := by
  rw [createdColors, List.flatMap_append, List.filterMap_append]
  rfl

private theorem createdColors_statements (id : Nat) (s : Step Double) :
    createdColors ((statements id s).map (·.line)) = List.range' id (idCount s) := by
  have body := createdColors_body id [s]
  rwa [bodyStatements, bodyStatements, List.append_nil, idTotal, idTotal, Nat.add_zero] at body

private theorem createdColors_declaration (functionPrefix name : String) (size : Size Double) :
    createdColors (declarationLines functionPrefix name size) = [] := by
  have constant (rest : String) : events ("static const CGSize " ++ rest) = [] := by
    apply events_of_head (c := 's')
    · simp
    · decide
  have prototype : events (functionHead functionPrefix name ++ ";") = [] := by
    apply events_of_head (c := 'v')
    · unfold functionHead
      simp
    · decide
  unfold createdColors declarationLines
  simp only [String.append_assoc, List.flatMap_cons, constant]
  rw [prototype]
  rfl

private theorem isBlock_declarationLines {functionPrefix name : String} (size : Size Double)
    (unbroken : '\n' ∉ functionPrefix.toList) (named : '\n' ∉ name.toList) :
    Text.IsBlock (declarationLines functionPrefix name size) := by
  have width := ending_not_mem_text (.inl rfl) size.width
  have height := ending_not_mem_text (.inl rfl) size.height
  constructor
  · exact List.cons_ne_nil _ _
  · unfold declarationLines functionHead functionName sizeConstantName
    simp [unbroken, named, width, height]
  · refine List.forall_mem_cons.mpr ⟨?_, List.forall_mem_singleton.mpr ?_⟩
    · intro empty
      have chars := congrArg String.toList empty
      simp at chars
    · intro empty
      have chars := congrArg String.toList empty
      unfold functionHead at chars
      simp at chars

private theorem createdColors_separated (blocks : List (List String)) :
    createdColors (blocks.flatMap (· ++ [""])) = blocks.flatMap createdColors := by
  induction blocks with
  | nil => rfl
  | cons block rest ih =>
    have empty : createdColors [""] = [] := rfl
    rw [List.flatMap_cons, createdColors_append, createdColors_append, ih, empty, List.append_nil,
      List.flatMap_cons]

/-- The colours of a file can be read off its text, behind the preamble. -/
theorem createdColors_lines_joined {blocks : List (List String)}
    (whole : ∀ block ∈ blocks, Text.IsBlock block) :
    createdColors (Text.lines (Text.joined blocks ++ "\n")) = blocks.flatMap createdColors := by
  by_cases none : blocks = []
  · rw [none]
    rfl
  · rw [Text.lines_joined_newline none whole, createdColors_separated]

end Code

namespace Generator

/-- The lines of a file behind its preamble. -/
def bodyLines (generator : Generator) (text : String) : List String :=
  Text.lines (String.ofList (text.toList.drop (Code.filePreamble generator).toList.length))

private theorem bodyLines_fileText (generator : Generator) (blocks : List (List String)) :
    generator.bodyLines (generator.fileText blocks) = Text.lines (Text.joined blocks ++ "\n") := by
  have text : generator.fileText blocks =
      Code.filePreamble generator ++ (Text.joined blocks ++ "\n") := String.append_assoc ..
  rw [bodyLines, text, String.toList_append, List.drop_left, String.ofList_toList]

theorem command_numbers {generator : Generator} {item : Item} {issued left : Nat}
    {lines : List String} (returns : (generator.command item issued).Returns lines left) :
    Code.createdColors lines = List.range' issued (left - issued) := by
  cases generator with
  | implementation settings =>
    obtain ⟨s, _, rfl, rfl⟩ := command_returns_iff.mp returns
    rw [Code.createdColors_statements, Nat.add_sub_cancel_left]
  | header functionPrefix toolName =>
    obtain ⟨_, rfl, rfl⟩ := header_command_returns_iff.mp returns
    rw [Nat.sub_self]
    rfl

/-- The lines for an image make the colours with the numbers that the run takes. -/
theorem imageFunction_numbers {generator : Generator} {image : Image} {issued left : Nat}
    {lines : List String} (returns : (generator.imageFunction image issued).Returns lines left) :
    Code.createdColors lines = List.range' issued (left - issued) := by
  cases generator with
  | implementation settings =>
    obtain ⟨drawing, _, rfl, rfl⟩ := imageFunction_returns_iff.mp returns
    rw [Code.createdColors_function, Nat.add_sub_cancel_left]
  | header functionPrefix toolName =>
    obtain ⟨declaration, _, rfl, rfl⟩ := header_imageFunction_returns_iff.mp returns
    rw [Declaration.lines, Code.createdColors_declaration, Nat.sub_self]
    rfl

private theorem imageFunction_isBlock {generator : Generator} {image : Image} {issued left : Nat}
    {lines : List String} (unbroken : '\n' ∉ generator.functionPrefix.toList)
    (named : '\n' ∉ image.name.toList)
    (returns : (generator.imageFunction image issued).Returns lines left) : Text.IsBlock lines := by
  cases generator with
  | implementation settings =>
    obtain ⟨drawing, draws, rfl, _⟩ := imageFunction_returns_iff.mp returns
    exact Code.isBlock_functionLines unbroken (draws.name ▸ named) Code.plain_of_mem_bodyStatements
  | header functionPrefix toolName =>
    obtain ⟨declaration, declares, rfl, _⟩ := header_imageFunction_returns_iff.mp returns
    exact Code.isBlock_declarationLines declaration.size unbroken (declares.name ▸ named)

private theorem blocks_numbers {generator : Generator} {images : List Image} {issued left : Nat}
    {blocks : List (List String)} (returns : (generator.blocks images issued).Returns blocks left) :
    blocks.flatMap Code.createdColors = List.range' issued (left - issued) := by
  induction images generalizing issued blocks with
  | nil =>
    obtain ⟨rfl, rfl⟩ := Run.returns_done_iff.mp returns
    rw [Nat.sub_self]
    rfl
  | cons image rest ih =>
    obtain ⟨lines, middle, tail, here, later, rfl⟩ := blocks_cons_returns_iff.mp returns
    have first : issued ≤ middle := here.count ▸ le_issued_imageFunction generator image issued
    have second : middle ≤ left := later.count ▸ le_issued_blocks generator rest middle
    obtain ⟨taken, rfl⟩ := Nat.exists_eq_add_of_le first
    obtain ⟨more, rfl⟩ := Nat.exists_eq_add_of_le second
    rw [List.flatMap_cons, imageFunction_numbers here, ih later, Nat.add_sub_cancel_left,
      Nat.add_sub_cancel_left, List.range'_append_1, Nat.add_assoc, Nat.add_sub_cancel_left]

theorem blocks_isBlock {generator : Generator} {images : List Image} {issued left : Nat}
    {blocks : List (List String)} (unbroken : '\n' ∉ generator.functionPrefix.toList)
    (named : ∀ image ∈ images, '\n' ∉ image.name.toList)
    (returns : (generator.blocks images issued).Returns blocks left) :
    ∀ block ∈ blocks, Text.IsBlock block := by
  induction images generalizing issued blocks with
  | nil =>
    obtain ⟨rfl, _⟩ := Run.returns_done_iff.mp returns
    exact List.forall_mem_nil _
  | cons image rest ih =>
    obtain ⟨lines, middle, tail, here, later, rfl⟩ := blocks_cons_returns_iff.mp returns
    obtain ⟨first, others⟩ := List.forall_mem_cons.mp named
    exact List.forall_mem_cons.mpr ⟨imageFunction_isBlock unbroken first here, ih others later⟩

/-- The text of a file makes the colours with the numbers that the run takes. -/
theorem file_numbers {generator : Generator} {images : List Image} {issued left : Nat}
    {text : String} (unbroken : '\n' ∉ generator.functionPrefix.toList)
    (named : ∀ image ∈ images, '\n' ∉ image.name.toList)
    (returns : (generator.file images issued).Returns text left) :
    Code.createdColors (generator.bodyLines text) = List.range' issued (left - issued) := by
  obtain ⟨blocks, emitted, rfl⟩ := file_returns_iff.mp returns
  rw [bodyLines_fileText, Code.createdColors_lines_joined (blocks_isBlock unbroken named emitted),
    blocks_numbers emitted]

end Generator

end DrawingCode
