import DrawingCode.Proofs.Generation.Emission

/-! # Generation in parts

A list of items and a list of images can be cut anywhere. The run for the whole list is the run for
the first part and then, from the count that this leaves, the run for the second part: it takes the
same numbers, logs the same records, and fails where the first of them fails. What remains is how
the results are put together. Lines and blocks are appended; the texts of two files lose the
preamble between them and get an empty line there.
-/

namespace DrawingCode

namespace Generator

/-- The run for a route is the run for its first steps and then the run for the others. -/
theorem body_append (generator : Generator) (items rest : List Item) (issued : Nat) :
    generator.body (items ++ rest) issued =
      (generator.body items issued).andThen fun lines middle =>
        (generator.body rest middle).map (lines ++ ·) := by
  induction items generalizing issued with
  | nil =>
    rw [List.nil_append, body, Run.done_andThen]
    exact (Run.map_id _).symm
  | cons item items ih =>
    simp only [List.cons_append, body, ih, Run.andThen_assoc, Run.map_andThen, Run.andThen_map,
      Run.map_map, List.append_assoc]

/-- The run for a list of images is the run for the first images and then the run for the others. -/
theorem blocks_append (generator : Generator) (images others : List Image) (issued : Nat) :
    generator.blocks (images ++ others) issued =
      (generator.blocks images issued).andThen fun blocks middle =>
        (generator.blocks others middle).map (blocks ++ ·) := by
  induction images generalizing issued with
  | nil =>
    rw [List.nil_append, Generator.blocks, Run.done_andThen]
    exact (Run.map_id _).symm
  | cons image images ih =>
    simp only [List.cons_append, Generator.blocks, ih, Run.andThen_assoc, Run.map_andThen,
      Run.andThen_map, Run.map_map]

theorem blocks_ne_nil {generator : Generator} {images : List Image} {issued left : Nat}
    {blocks : List (List String)} (some : images ≠ [])
    (returns : (generator.blocks images issued).Returns blocks left) : blocks ≠ [] := by
  obtain ⟨image, rest, rfl⟩ := List.exists_cons_of_ne_nil some
  obtain ⟨lines, _, tail, _, _, rfl⟩ := blocks_cons_returns_iff.mp returns
  exact List.cons_ne_nil lines tail

theorem file_fails_iff {generator : Generator} {images : List Image} {issued left : Nat}
    {e : Failure} : (generator.file images issued).Fails e left ↔
      (generator.blocks images issued).Fails e left := by
  rw [file, Run.fails_andThen_iff]
  constructor
  · rintro (failed | ⟨_, _, _, ⟨outcome, _⟩⟩)
    · exact failed
    · cases outcome
  · exact .inl

/-- The text of a file is put around the text for its images. -/
def IsFile (generator : Generator) (inner text : String) : Prop :=
  text = Code.filePreamble generator ++ inner ++ "\n"

/-- Two files go together with an empty line between them and without a second preamble. -/
def JoinsTexts (generator : Generator) (text other whole : String) : Prop :=
  ∃ inner otherInner, generator.IsFile inner text ∧ generator.IsFile otherInner other ∧
    generator.IsFile (inner ++ "\n\n" ++ otherInner) whole

/-- The lines for two parts of a route go together with one opening and one closing. -/
def JoinsLines (generator : Generator) (name : String) (size : Size Value)
    (lines more all : List String) : Prop :=
  ∃ body tail, generator.IsFunction name size body lines ∧
    generator.IsFunction name size tail more ∧ generator.IsFunction name size (body ++ tail) all

private theorem file_joins (generator : Generator) {images others : List Image} (some : images ≠ [])
    (more : others ≠ []) (start : Nat) :
    Run.Joins generator.JoinsTexts (generator.file images start) (generator.file others)
      (generator.file (images ++ others) start) := by
  have parts := Run.joins_of_eq_andThen (generator.blocks_append images others start)
  constructor
  · intro text other middle left here later
    obtain ⟨blocks, emitted, rfl⟩ := file_returns_iff.mp here
    obtain ⟨otherBlocks, otherEmitted, rfl⟩ := file_returns_iff.mp later
    obtain ⟨_, rfl, whole⟩ := parts.returns emitted otherEmitted
    refine ⟨_, ⟨_, _, rfl, rfl, ?_⟩, file_returns_iff.mpr ⟨_, whole, rfl⟩⟩
    have first := blocks_ne_nil some emitted
    have second := blocks_ne_nil more otherEmitted
    rw [IsFile, fileText, List.map_append, String.intercalate_append_of_ne_nil]
    · simpa using first
    · simpa using second
  · intro e middle here
    exact file_fails_iff.mpr (parts.failsFirst (file_fails_iff.mp here))
  · intro text e middle left here later
    obtain ⟨blocks, emitted, rfl⟩ := file_returns_iff.mp here
    exact file_fails_iff.mpr (parts.failsSecond emitted (file_fails_iff.mp later))

private theorem imageFunction_fails_iff_body {generator : Generator} {image : Image}
    {issued left : Nat}
    {e : Failure} : (generator.imageFunction image issued).Fails e left ↔
      (generator.opening image.name image.route.bounds.size = .error e ∧ left = issued) ∨
        ∃ start, generator.opening image.name image.route.bounds.size = .ok start ∧
          (generator.body image.route.items issued).Fails e left := by
  rw [imageFunction, Run.fails_andThen_iff]
  constructor
  · rintro (⟨closed, rfl⟩ | ⟨start, _, ⟨opened, rfl⟩, later⟩)
    · exact .inl ⟨closed, rfl⟩
    · exact .inr ⟨start, opened, Run.fails_map_iff.mp later⟩
  · rintro (⟨closed, rfl⟩ | ⟨start, opened, inside⟩)
    · exact .inl ⟨closed, rfl⟩
    · exact .inr ⟨start, issued, ⟨opened, rfl⟩, Run.fails_map_iff.mpr inside⟩

private theorem imageFunction_joins (generator : Generator) (name : String) (bounds : Rect Value)
    (items rest : List Item) (start : Nat) :
    Run.Joins (generator.JoinsLines name bounds.size)
      (generator.imageFunction ⟨name, items, bounds⟩ start)
      (generator.imageFunction ⟨name, rest, bounds⟩)
      (generator.imageFunction ⟨name, items ++ rest, bounds⟩ start) := by
  have parts := Run.joins_of_eq_andThen (generator.body_append items rest start)
  constructor
  · intro lines more middle left here later
    obtain ⟨body, ⟨opening, opened, rfl⟩, emitted⟩ := imageFunction_returns_iff_body.mp here
    obtain ⟨tail, function, otherEmitted⟩ := imageFunction_returns_iff_body.mp later
    obtain ⟨_, rfl, all⟩ := parts.returns emitted otherEmitted
    have whole : generator.IsFunction name bounds.size (body ++ tail)
        (opening ++ (body ++ tail) ++ generator.closing) := ⟨opening, opened, rfl⟩
    exact ⟨_, ⟨body, tail, ⟨opening, opened, rfl⟩, function, whole⟩,
      imageFunction_returns_iff_body.mpr ⟨body ++ tail, whole, all⟩⟩
  · intro e middle here
    apply imageFunction_fails_iff_body.mpr
    rcases imageFunction_fails_iff_body.mp here with closed | ⟨opening, opened, inside⟩
    · exact .inl closed
    · exact .inr ⟨opening, opened, parts.failsFirst inside⟩
  · intro lines e middle left here later
    obtain ⟨body, ⟨opening, opened, _⟩, emitted⟩ := imageFunction_returns_iff_body.mp here
    apply imageFunction_fails_iff_body.mpr
    rcases imageFunction_fails_iff_body.mp later with ⟨closed, _⟩ | ⟨_, _, inside⟩
    · cases opened.symm.trans closed
    · exact .inr ⟨opening, opened, parts.failsSecond emitted inside⟩

/-- The file for two lists of images and the lines for two parts of a route are what the runs for
the parts give, one after another: they return what the parts return, put together, or fail as the
first part does or else as the second one does, and leave the count where the last run leaves it. -/
theorem generated_in_parts (generator : Generator) {images others : List Image}
    (some : images ≠ []) (more : others ≠ []) (start : Nat) :
    Run.Joins generator.JoinsTexts (generator.file images start) (generator.file others)
        (generator.file (images ++ others) start) ∧
      ∀ name bounds items rest,
        Run.Joins (generator.JoinsLines name bounds.size)
          (generator.imageFunction ⟨name, items, bounds⟩ start)
          (generator.imageFunction ⟨name, rest, bounds⟩)
          (generator.imageFunction ⟨name, items ++ rest, bounds⟩ start) :=
  ⟨file_joins generator some more start, fun name bounds items rest =>
    imageFunction_joins generator name bounds items rest start⟩

/-- A dot with the given red component. -/
def dot (name : String) (red : Value) : Image :=
  ⟨name, [.step (.strokeColor ⟨red, .bool false, .bool true⟩), .step .stroke],
    ⟨.null, .null, .null, .null⟩⟩

/-- One dot goes together with another one, and the third dot fails behind both of them. -/
theorem generated_in_parts_dots :
    [dot "A" (.bool true)] ≠ [] ∧ [dot "B" (.bool true)] ≠ [] ∧
      (∃ text other whole,
        (implementation {}).JoinsTexts text other whole ∧
        ((implementation {}).file [dot "A" (.bool true)] 3).Returns text 4 ∧
        ((implementation {}).file [dot "B" (.bool true)] 4).Returns other 5 ∧
        ((implementation {}).file [dot "A" (.bool true), dot "B" (.bool true)] 3).Returns whole 5) ∧
      ((implementation {}).file
        [dot "A" (.bool true), dot "B" (.bool true), dot "C" .null] 3).Fails
          (.number (.notNumeric "NoneType")) 6 := by
  have first : ((implementation {}).file [dot "A" (.bool true)] 3).Returns _ 4 := ⟨rfl, rfl⟩
  have second : ((implementation {}).file [dot "B" (.bool true)] 4).Returns _ 5 := ⟨rfl, rfl⟩
  have joins := (generated_in_parts (implementation {}) (List.cons_ne_nil (dot "A" (.bool true)) [])
    (List.cons_ne_nil (dot "B" (.bool true)) []) 3).1
  have longer := (generated_in_parts (implementation {})
    (List.cons_ne_nil (dot "A" (.bool true)) [])
    (List.cons_ne_nil (dot "B" (.bool true)) [dot "C" .null]) 3).1
  obtain ⟨whole, together, returns⟩ := joins.returns first second
  exact ⟨List.cons_ne_nil _ _, List.cons_ne_nil _ _,
    ⟨_, _, whole, together, first, second, returns⟩, longer.failsSecond first ⟨rfl, rfl⟩⟩

end Generator

end DrawingCode
