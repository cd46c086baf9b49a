import DrawingCode.Proofs.Generation.Accounting
import DrawingCode.Proofs.Generation.Agreement
import DrawingCode.Proofs.Generation.Closure
import DrawingCode.Proofs.Generation.Composition

/-! # What a run records

A run records every image that it completes, with the length of its route and the numbers of its
lines and of its colours, and at the end the number of all images. A run that fails has recorded the
images before the one that it fails in, and nothing else. On success the records add up: to the
numbers that the run takes, and to the lines of the text.
-/

namespace DrawingCode

/-- Whether an item is a step that draws something and sets no colour. -/
def Item.isPlain : Item → Bool
  | .step s => !s.isMarker && !s.isColor
  | _ => false

private theorem Item.isPlain_of_drawable {item : Item} {s : Step Double}
    (drawable : item.drawable? = some s) : item.isPlain = (!s.isMarker && !s.isColor) := by
  have marker := isMarker_of_drawable drawable
  have color := isColor_of_drawable drawable
  obtain ⟨t, rfl, _⟩ := drawable?_eq_some_iff.mp drawable
  exact congrArg₂ (fun first second => !first && !second) marker color

private theorem Step.isColor_of_isMarker {α : Type} {s : Step α} (marker : s.isMarker) :
    s.isColor = false := by
  cases s with
  | endPath | nonStrokeColorSpace | strokeColorSpace => rfl
  | _ => cases marker

/-- A plain step has one statement and a step that sets a colour three. -/
theorem length_statements_of_drawable {item : Item} {s : Step Double}
    (drawable : item.drawable? = some s) (id : Nat) : (Code.statements id s).length =
      (if item.isPlain then 1 else 0) + 3 * if item.isColor then 1 else 0 := by
  rw [Code.length_statements, Item.isPlain_of_drawable drawable, Item.isColor_of_drawable drawable]
  cases marker : s.isMarker with
  | true => simp [Step.isColor_of_isMarker marker]
  | false => cases s.isColor <;> rfl

/-- The statements for a row of items are one for each plain step and three for each colour. -/
theorem length_bodyStatements {items : List Item} {steps : List (Step Double)}
    (drawables : List.Forall₂ (fun item s => item.drawable? = some s) items steps) (id : Nat) :
    (Code.bodyStatements id steps).length = items.countP Item.isPlain + 3 * colorCount items := by
  induction drawables generalizing id with
  | nil => rfl
  | cons drawable _ ih =>
    rw [Code.bodyStatements, List.length_append, length_statements_of_drawable drawable, ih]
    simp only [colorCount, List.countP_cons]
    omega

namespace Generator

/-- How many lines an image has. -/
def lineCount (generator : Generator) (image : Image) : Nat :=
  match generator with
  | implementation _ =>
    4 + image.route.items.countP Item.isPlain + 3 * colorCount image.route.items
  | header .. => 2

/-- How many numbers an image takes. -/
def idCount (generator : Generator) (image : Image) : Nat :=
  match generator with
  | implementation _ => colorCount image.route.items
  | header .. => 0

def record (generator : Generator) (image : Image) : LogEvent :=
  .imageEmitted image.name image.route.items.length (generator.lineCount image)
    (generator.idCount image)

/-- The texts that the settings of a generator consist of. -/
def texts : Generator → List String
  | implementation settings =>
    [settings.functionPrefix, settings.toolName] ++ settings.headerPath.toList
  | header functionPrefix toolName => [functionPrefix, toolName]

/-- A run for a file fails in the image at a place: the images before it have their blocks, and the
run for the image fails from there. -/
structure FailsInside (generator : Generator) (images : List Image) (start place : Nat)
    (e : Failure) (left : Nat) : Prop where
  reaches : ∃ image blocks middle, images[place]? = some image ∧
    (generator.blocks (images.take place) start).Returns blocks middle ∧
    (generator.imageFunction image middle).Fails e left

/-- A run for a file that succeeds with a text and a count is accounted for by its records: one of
each image and one of the file. The numbers that it takes and the lines of its text add up. -/
structure Recorded (generator : Generator) (images : List Image) (start : Nat) (text : String)
    (left : Nat) : Prop where
  log : (generator.file images start).log =
    images.map generator.record ++ [.fileGenerated generator.name images.length]
  levels : (generator.file images start).log.map LogEvent.level =
    List.replicate images.length .debug ++ [.info]
  numbers : left = start + (images.map generator.idCount).sum
  newlines : (∀ text ∈ generator.texts, '\n' ∉ text.toList) →
    (∀ image ∈ images, '\n' ∉ image.name.toList) → images ≠ [] →
      text.toList.count '\n' = 4 + (images.map generator.lineCount).sum + (images.length - 1)

/-- A run for a file that fails has recorded images, and nothing else. -/
structure RecordedUntil (generator : Generator) (images : List Image) (start place : Nat) :
    Prop where
  log : (generator.file images start).log = (images.take place).map generator.record
  levels : ∀ event ∈ (generator.file images start).log, event.level = .debug

variable {generator : Generator} {images : List Image} {issued left : Nat}

section Logs

variable (generator : Generator)

private theorem log_command (item : Item) (issued : Nat) :
    (generator.command item issued).log = [] := by
  cases generator with
  | implementation settings =>
    cases item with
    | step s =>
      simp only [command]
      cases s.mapM Value.toDouble <;> rfl
    | _ => rfl
  | header functionPrefix toolName =>
    simp only [command]
    split_ifs <;> rfl

private theorem log_body (items : List Item) (issued : Nat) :
    (generator.body items issued).log = [] := by
  induction items generalizing issued with
  | nil => rfl
  | cons item rest ih =>
    exact Run.log_andThen_eq_nil (generator.log_command item issued) fun _ afterItem => ih afterItem

private theorem log_imageFunction (image : Image) (issued : Nat) :
    (generator.imageFunction image issued).log = [] :=
  Run.log_andThen_eq_nil rfl fun _ afterOpening => generator.log_body _ afterOpening

end Logs

/-- The lines of an image and the numbers that it takes are as many as its record says. -/
theorem imageFunction_counts {image : Image} {lines : List String}
    (returns : (generator.imageFunction image issued).Returns lines left) :
    lines.length = generator.lineCount image ∧ left = issued + generator.idCount image := by
  cases generator with
  | implementation settings =>
    obtain ⟨_, count⟩ := (imageFunction_accounts settings image issued).returns returns
    obtain ⟨drawing, draws, rfl, _⟩ := imageFunction_returns_iff.mp returns
    refine ⟨?_, count⟩
    simp only [Code.functionLines, List.length_cons, List.length_append, List.length_map,
      List.length_nil, length_bodyStatements draws.steps, lineCount]
    omega
  | header functionPrefix toolName =>
    obtain ⟨_, _, rfl, rfl⟩ := header_imageFunction_returns_iff.mp returns
    exact ⟨rfl, rfl⟩

/-- The record of an image that is complete stands before those of the images behind it. -/
theorem log_blocks_cons {image : Image} {rest : List Image} {lines : List String} {middle : Nat}
    (returns : (generator.imageFunction image issued).Returns lines middle) :
    (generator.blocks (image :: rest) issued).log =
      generator.record image :: (generator.blocks rest middle).log := by
  obtain ⟨length, count⟩ := imageFunction_counts returns
  rw [Generator.blocks, returns.log_andThen, log_imageFunction, List.nil_append,
    Run.Returns.log_andThen ⟨rfl, rfl⟩, Run.log_map, length, count, Nat.add_sub_cancel_left]
  rfl

private theorem blocks_records {blocks : List (List String)}
    (returns : (generator.blocks images issued).Returns blocks left) :
    (generator.blocks images issued).log = images.map generator.record ∧
      left = issued + (images.map generator.idCount).sum ∧
      blocks.map List.length = images.map generator.lineCount := by
  induction images generalizing issued blocks with
  | nil =>
    obtain ⟨rfl, rfl⟩ := Run.returns_done_iff.mp returns
    exact ⟨rfl, rfl, rfl⟩
  | cons image rest ih =>
    obtain ⟨lines, middle, tail, here, later, rfl⟩ := blocks_cons_returns_iff.mp returns
    obtain ⟨length, rfl⟩ := imageFunction_counts here
    obtain ⟨log, rfl, lengths⟩ := ih later
    refine ⟨?_, ?_, ?_⟩
    · rw [log_blocks_cons here, log, List.map_cons]
    · rw [List.map_cons, List.sum_cons, Nat.add_assoc]
    · rw [List.map_cons, List.map_cons, length, lengths]

private theorem blocks_cons_fails_iff {image : Image} {rest : List Image} {e : Failure} :
    (generator.blocks (image :: rest) issued).Fails e left ↔
      (generator.imageFunction image issued).Fails e left ∨ ∃ lines middle,
        (generator.imageFunction image issued).Returns lines middle ∧
          (generator.blocks rest middle).Fails e left := by
  rw [Generator.blocks, Run.fails_andThen_iff]
  refine or_congr_right (exists_congr fun lines => exists_congr fun middle =>
    and_congr_right fun _ => ?_)
  rw [Run.fails_andThen_iff]
  constructor
  · rintro (⟨outcome, _⟩ | ⟨_, _, ⟨_, rfl⟩, later⟩)
    · cases outcome
    · exact Run.fails_map_iff.mp later
  · intro later
    exact .inr ⟨(), middle, ⟨rfl, rfl⟩, Run.fails_map_iff.mpr later⟩

/-- A run that fails does so inside one of the images. -/
theorem exists_failsInside {e : Failure} (fails : (generator.blocks images issued).Fails e left) :
    ∃ place, generator.FailsInside images issued place e left := by
  induction images generalizing issued with
  | nil => cases fails.outcome
  | cons image rest ih =>
    rcases blocks_cons_fails_iff.mp fails with here | ⟨lines, middle, here, later⟩
    · exact ⟨0, ⟨image, [], issued, rfl, ⟨rfl, rfl⟩, here⟩⟩
    · obtain ⟨place, ⟨other, blocks, reached, found, before, failed⟩⟩ := ih later
      exact ⟨place + 1, ⟨other, lines :: blocks, reached, found,
        blocks_cons_returns_iff.mpr ⟨lines, middle, blocks, here, before, rfl⟩, failed⟩⟩

/-- A run that fails inside an image has the records of the images before it. -/
theorem FailsInside.blocks {place : Nat} {e : Failure}
    (inside : generator.FailsInside images issued place e left) :
    (generator.blocks images issued).Fails e left ∧
      (generator.blocks images issued).log = (images.take place).map generator.record := by
  obtain ⟨image, blocks, middle, found, before, failed⟩ := inside.reaches
  obtain ⟨bound, rfl⟩ := List.getElem?_eq_some_iff.mp found
  have later : (generator.blocks (images.drop place) middle).Fails e left := by
    rw [List.drop_eq_getElem_cons bound]
    exact blocks_cons_fails_iff.mpr (.inl failed)
  have silent : (generator.blocks (images.drop place) middle).log = [] := by
    rw [List.drop_eq_getElem_cons bound, Generator.blocks, failed.log_andThen, log_imageFunction]
  have whole := generator.blocks_append (images.take place) (images.drop place) issued
  rw [List.take_append_drop] at whole
  rw [whole]
  refine ⟨Run.fails_andThen_iff.mpr (.inr ⟨_, _, before, Run.fails_map_iff.mpr later⟩), ?_⟩
  rw [before.log_andThen, Run.log_map, silent, List.append_nil, (blocks_records before).1]

private theorem file_log_of_returns {text : String}
    (returns : (generator.file images issued).Returns text left) :
    (generator.file images issued).log =
      images.map generator.record ++ [.fileGenerated generator.name images.length] := by
  obtain ⟨blocks, emitted, rfl⟩ := file_returns_iff.mp returns
  obtain ⟨log, _, lengths⟩ := blocks_records emitted
  have count : blocks.length = images.length := by
    simpa using congrArg List.length lengths
  rw [file, emitted.log_andThen, log, count]

private theorem file_log_of_failsInside {place : Nat} {e : Failure}
    (inside : generator.FailsInside images issued place e left) :
    (generator.file images issued).log = (images.take place).map generator.record := by
  obtain ⟨fails, log⟩ := inside.blocks
  rw [file, fails.log_andThen, log]

section Lines

/-- The target that a file imports has no line end in it if the settings have none. -/
theorem exists_preamble (unbroken : ∀ text ∈ generator.texts, '\n' ∉ text.toList) :
    ∃ toolName target : String, '\n' ∉ toolName.toList ∧ '\n' ∉ target.toList ∧
      Code.filePreamble generator = Code.preamble toolName target := by
  cases generator with
  | implementation settings =>
    have path : ∀ path ∈ settings.headerPath, '\n' ∉ path.toList :=
      fun path given => unbroken path (by simp [texts, Option.mem_def.mp given])
    obtain ⟨target, imported, preamble⟩ := exists_importTarget path
    exact ⟨settings.toolName, target, unbroken _ (by simp [texts]), imported, preamble⟩
  | header functionPrefix toolName =>
    exact ⟨toolName, Code.libraryHeader, unbroken _ (by simp [texts]), by decide, rfl⟩

/-- A file has four lines before its blocks and an empty line behind each of them. -/
theorem count_newline_fileText {blocks : List (List String)}
    (unbroken : ∀ text ∈ generator.texts, '\n' ∉ text.toList) (some : blocks ≠ [])
    (whole : ∀ block ∈ blocks, Text.IsBlock block) :
    (generator.fileText blocks).toList.count '\n' + 1 =
      4 + (blocks.map List.length).sum + blocks.length := by
  obtain ⟨toolName, target, tool, imported, preamble⟩ := exists_preamble unbroken
  have behind : (blocks.flatMap (· ++ [""])).length =
      (blocks.map List.length).sum + blocks.length := by
    clear some whole
    induction blocks with
    | nil => rfl
    | cons block rest ih =>
      simp only [List.flatMap_cons, List.length_append, ih, List.map_cons, List.sum_cons,
        List.length_cons, List.length_nil]
      omega
  have lines := Code.lines_preamble tool imported (Text.joined blocks ++ "\n")
  rw [Text.lines_joined_newline some whole, ← String.append_assoc, ← preamble] at lines
  rw [← Text.length_lines]
  refine (congrArg List.length lines).trans ?_
  simp only [List.length_cons, behind]
  omega

private theorem count_newline_file {text : String}
    (unbroken : ∀ text ∈ generator.texts, '\n' ∉ text.toList)
    (named : ∀ image ∈ images, '\n' ∉ image.name.toList) (some : images ≠ [])
    (returns : (generator.file images issued).Returns text left) :
    text.toList.count '\n' =
      4 + (images.map generator.lineCount).sum + (images.length - 1) := by
  obtain ⟨blocks, emitted, rfl⟩ := file_returns_iff.mp returns
  obtain ⟨_, _, lengths⟩ := blocks_records emitted
  have functions : '\n' ∉ generator.functionPrefix.toList := by
    apply unbroken
    cases generator <;> simp [texts, functionPrefix]
  have newlines := count_newline_fileText unbroken (blocks_ne_nil some emitted)
    (blocks_isBlock functions named emitted)
  have count : blocks.length = images.length := by
    simpa using congrArg List.length lengths
  have positive : 0 < images.length := List.length_pos_iff.mpr some
  rw [lengths, count] at newlines
  omega

end Lines

private theorem file_recorded {text : String}
    (returns : (generator.file images issued).Returns text left) :
    generator.Recorded images issued text left := by
  obtain ⟨_, emitted, _⟩ := file_returns_iff.mp returns
  obtain ⟨_, numbers, _⟩ := blocks_records emitted
  have log := file_log_of_returns returns
  refine ⟨log, ?_, numbers, fun unbroken named some =>
    count_newline_file unbroken named some returns⟩
  have records : LogEvent.level ∘ generator.record = Function.const Image .debug := rfl
  rw [log, List.map_append, List.map_map, records, List.map_const]
  rfl

private theorem file_recordedUntil {place : Nat} {e : Failure}
    (inside : generator.FailsInside images issued place e left) :
    generator.RecordedUntil images issued place := by
  have log := file_log_of_failsInside inside
  refine ⟨log, ?_⟩
  rw [log, List.forall_mem_map]
  intro image _
  rfl

end Generator

private theorem Sources.log_generate (images : List Image) (functionPrefix : String)
    (headerPath : Option String) (toolName : String) :
    (Sources.generate images functionPrefix headerPath toolName).log =
      ((Generator.header functionPrefix toolName).file images 0).log ++
        if ((Generator.header functionPrefix toolName).file images 0).outcome.isOk then
          ((Generator.implementation ⟨functionPrefix, headerPath, toolName⟩).file images 0).log
        else [] := by
  rcases ((Generator.header functionPrefix toolName).file images 0).returns_or_fails with
    ⟨text, returns⟩ | ⟨e, fails⟩
  · rw [generate, returns.log_andThen, Run.log_map, returns.outcome]
    rfl
  · rw [generate, fails.log_andThen, fails.outcome]
    exact (List.append_nil _).symm

/-- The records of a run account for it. A run that succeeds records every image and then the file;
a run fails exactly if it fails inside an image, and then it has recorded the images before that.
Where a header and an implementation are generated, the records of the implementation follow those
of the header, and only if there is a header. -/
theorem records_account_for_run :
    (∀ (generator : Generator) (images : List Image) (start : Nat),
      (∀ text left, (generator.file images start).Returns text left →
        generator.Recorded images start text left) ∧
      (∀ e left, (generator.file images start).Fails e left ↔
        ∃ place, generator.FailsInside images start place e left) ∧
      ∀ place e left, generator.FailsInside images start place e left →
        generator.RecordedUntil images start place) ∧
    ∀ (images : List Image) (functionPrefix : String) (headerPath : Option String)
      (toolName : String),
      (Sources.generate images functionPrefix headerPath toolName).log =
        ((Generator.header functionPrefix toolName).file images 0).log ++
          if ((Generator.header functionPrefix toolName).file images 0).outcome.isOk then
            ((Generator.implementation ⟨functionPrefix, headerPath, toolName⟩).file images 0).log
          else [] := by
  refine ⟨fun generator images start => ⟨?_, ?_, ?_⟩, Sources.log_generate⟩
  · intro text left returns
    exact Generator.file_recorded returns
  · intro e left
    rw [Generator.file_fails_iff]
    exact ⟨Generator.exists_failsInside, fun ⟨_, inside⟩ => inside.blocks.1⟩
  · intro place e left inside
    exact Generator.file_recordedUntil inside

/-- An image that is stroked in a colour, and an image of a colour whose second component is no
number. -/
def strokedImages : List Image :=
  [⟨"A", [.step (.strokeColor ⟨.bool true, .bool true, .bool true⟩), .step .stroke, .step .endPath],
      ⟨.null, .null, .bool true, .bool true⟩⟩,
    ⟨"B", [.step (.strokeColor ⟨.bool true, .null, .bool true⟩)],
      ⟨.null, .null, .bool true, .bool true⟩⟩]

/-- The run for the first image records its three steps, eight lines and one colour. The run for
both images fails in the second one and has recorded the first one alone. -/
theorem records_account_for_run_stroked :
    (∃ text, ((Generator.implementation {}).file (strokedImages.take 1) 3).Returns text 4 ∧
      (Generator.implementation {}).Recorded (strokedImages.take 1) 3 text 4 ∧
      ((Generator.implementation {}).file (strokedImages.take 1) 3).log =
        [.imageEmitted "A" 3 8 1, .fileGenerated "ObjcCGGenerator" 1] ∧
      text.toList.count '\n' = 12) ∧
    (Generator.implementation {}).FailsInside strokedImages 3 1
        (.number (.notNumeric "NoneType")) 5 ∧
      ((Generator.implementation {}).file strokedImages 3).log = [.imageEmitted "A" 3 8 1] := by
  obtain ⟨success, _, _⟩ := records_account_for_run.1 (.implementation {}) (strokedImages.take 1) 3
  obtain ⟨_, _, failure⟩ := records_account_for_run.1 (.implementation {}) strokedImages 3
  have returns : ((Generator.implementation {}).file (strokedImages.take 1) 3).Returns _ 4 :=
    ⟨rfl, rfl⟩
  have recorded := success _ _ returns
  have inside : (Generator.implementation {}).FailsInside strokedImages 3 1
      (.number (.notNumeric "NoneType")) 5 :=
    ⟨_, _, 4, rfl, ⟨rfl, rfl⟩, rfl, rfl⟩
  refine ⟨⟨_, returns, recorded, recorded.log, ?_⟩, inside, (failure _ _ _ inside).log⟩
  exact recorded.newlines (by decide) (by decide) (by decide)

end DrawingCode
