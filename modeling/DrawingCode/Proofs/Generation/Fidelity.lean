import DrawingCode.Proofs.Code.Functions

/-! # Fidelity of generated code

The text of an implementation file shows the names of the images and their steps over doubles, in
order, except for the steps that only mark a place. It shows nothing else: two files of one
generator that are numbered from the same count are the same text exactly if they show the same.
-/

namespace DrawingCode

/-- Whether an item is a step that only marks a place in the drawing. -/
def Item.isMarker : Item → Bool
  | .step s => s.isMarker
  | _ => false

/-- The step over doubles that code shows for an item, if it is a step and has one. -/
def Item.shown? (item : Item) : Option (Step Double) := item.drawable?.map Step.canonical

/-- What code shows of the items of an image. -/
def Image.shownSteps (image : Image) : List (Option (Step Double)) :=
  (image.route.items.filter fun item => !item.isMarker).map Item.shown?

theorem Item.isMarker_of_drawable {item : Item} {s : Step Double}
    (drawable : item.drawable? = some s) : item.isMarker = s.isMarker := by
  obtain ⟨t, rfl, converted⟩ := Item.drawable?_eq_some_iff.mp drawable
  rw [isMarker, t.isMarker_eq, s.isMarker_eq, Step.kind_of_mapM converted]

private theorem shownSteps_of_drawables {items : List Item} {steps : List (Step Double)}
    (drawables : List.Forall₂ (fun item s => item.drawable? = some s) items steps) :
    (items.filter fun item => !item.isMarker).map Item.shown? = (Step.shown steps).map some := by
  induction drawables with
  | nil => rfl
  | @cons item s _ _ drawable _ ih =>
    have same := Item.isMarker_of_drawable drawable
    cases marker : s.isMarker with
    | true =>
      rw [marker] at same
      rw [Code.shown_cons_of_isMarker marker, List.filter_cons_of_neg (by simp [same]), ih]
    | false =>
      rw [marker] at same
      have shown : item.shown? = some s.canonical := by rw [Item.shown?, drawable, Option.map_some]
      rw [Code.shown_cons_of_drawn marker, List.filter_cons_of_pos (by simp [same]), List.map_cons,
        ih, shown, List.map_cons]

/-- Images that convert show the same exactly if their drawings do. -/
theorem Image.shown_eq_iff {image other : Image} {drawing otherDrawing : Drawing}
    (draws : image.Draws drawing) (otherDraws : other.Draws otherDrawing) :
    image.name = other.name ∧ image.shownSteps = other.shownSteps ↔
      drawing.shown = otherDrawing.shown := by
  rw [shownSteps, shownSteps, shownSteps_of_drawables draws.steps,
    shownSteps_of_drawables otherDraws.steps, draws.name, otherDraws.name, Drawing.shown,
    Drawing.shown, Drawing.mk.injEq,
    (List.map_injective_iff.mpr (Option.some_injective _)).eq_iff]

private theorem forall₂_shown_iff {images others : List Image}
    {drawings otherDrawings : List Drawing}
    (draws : List.Forall₂ Image.Draws images drawings)
    (otherDraws : List.Forall₂ Image.Draws others otherDrawings) :
    List.Forall₂ (fun image other : Image => image.name = other.name ∧
        image.shownSteps = other.shownSteps) images others ↔
      drawings.map Drawing.shown = otherDrawings.map Drawing.shown := by
  induction draws generalizing others otherDrawings with
  | nil => cases otherDraws <;> simp
  | cons here _ ih =>
    cases otherDraws with
    | nil => simp
    | cons there later =>
      rw [List.forall₂_cons, Image.shown_eq_iff here there, ih later, List.map_cons, List.map_cons,
        List.cons.injEq]

private theorem named_drawings {images : List Image} {drawings : List Drawing}
    (draws : List.Forall₂ Image.Draws images drawings)
    (named : ∀ image ∈ images, '\n' ∉ image.name.toList) :
    ∀ drawing ∈ drawings, '\n' ∉ drawing.name.toList := by
  induction draws with
  | nil => exact List.forall_mem_nil _
  | cons here _ ih =>
    obtain ⟨first, later⟩ := List.forall_mem_cons.mp named
    exact List.forall_mem_cons.mpr ⟨here.name ▸ first, ih later⟩

private theorem fileText_eq_iff {generator : Generator} {first second : List (List String)}
    (whole : ∀ block ∈ first, Text.IsBlock block)
    (otherWhole : ∀ block ∈ second, Text.IsBlock block) :
    generator.fileText first = generator.fileText second ↔ first = second := by
  constructor
  · intro same
    have joined : Text.joined first = Text.joined second :=
      (String.append_right_inj _).mp ((String.append_left_inj _).mp same)
    rw [← Text.blocks_joined whole, joined, Text.blocks_joined otherWhole]
  · rintro rfl
    rfl

/-- Two implementation files of one generator, numbered from the same count, are the same text
exactly if they have as many images and, image by image, the same name and the same shown steps. -/
theorem implementation_text_eq_iff {settings : Settings} {start : Nat} {images others : List Image}
    {text otherText : String} (unbroken : '\n' ∉ settings.functionPrefix.toList)
    (named : ∀ image ∈ images, '\n' ∉ image.name.toList)
    (othersNamed : ∀ image ∈ others, '\n' ∉ image.name.toList)
    (success : ((Generator.implementation settings).file images start).outcome = .ok text)
    (otherSuccess :
      ((Generator.implementation settings).file others start).outcome = .ok otherText) :
    text = otherText ↔
      List.Forall₂ (fun image other : Image =>
        image.name = other.name ∧ image.shownSteps = other.shownSteps) images others := by
  obtain ⟨drawings, draws, rfl, _⟩ :=
    Generator.implementation_file_returns_iff.mp (Run.returns_of_ok success)
  obtain ⟨otherDrawings, otherDraws, rfl, _⟩ :=
    Generator.implementation_file_returns_iff.mp (Run.returns_of_ok otherSuccess)
  have whole := Code.isBlock_of_mem_functionBlocks start unbroken (named_drawings draws named)
  have otherWhole :=
    Code.isBlock_of_mem_functionBlocks start unbroken (named_drawings otherDraws othersNamed)
  rw [fileText_eq_iff whole otherWhole, Code.functionBlocks_eq_iff,
    forall₂_shown_iff draws otherDraws]

/-- A dot whose colour is set between two marks, given by a truth value and two odd patterns. -/
def markedDot : Image :=
  ⟨"Dot", [.step .strokeColorSpace, .step (.strokeColor ⟨.bool true,
      .double ⟨true, Double.infinityRank + 1, by decide⟩, .double (.zero true)⟩), .step .endPath],
    ⟨.null, .null, .null, .null⟩⟩

/-- The same dot without the marks, given by doubles. -/
def bareDot : Image :=
  ⟨"Dot", [.step (.strokeColor ⟨.double .one, .double .nan, .double (.zero true)⟩)],
    ⟨.bool true, .null, .null, .null⟩⟩

/-- Both dots have the same text, since they show the same. -/
theorem implementation_text_dots : ∃ text,
    ((Generator.implementation {}).file [markedDot] 3).outcome = .ok text ∧
      ((Generator.implementation {}).file [bareDot] 3).outcome = .ok text := by
  have marked : markedDot.Draws ⟨"Dot", [.strokeColorSpace, .strokeColor ⟨.one,
      ⟨true, Double.infinityRank + 1, by decide⟩, .zero true⟩, .endPath]⟩ :=
    ⟨rfl, .cons rfl (.cons rfl (.cons rfl .nil))⟩
  have bare : bareDot.Draws ⟨"Dot", [.strokeColor ⟨.one, .nan, .zero true⟩]⟩ :=
    ⟨rfl, .cons rfl .nil⟩
  have success : ((Generator.implementation {}).file [markedDot] 3).outcome = .ok _ :=
    (Generator.implementation_file_returns_iff.mpr ⟨_, .cons marked .nil, rfl, rfl⟩).outcome
  have otherSuccess : ((Generator.implementation {}).file [bareDot] 3).outcome = .ok _ :=
    (Generator.implementation_file_returns_iff.mpr ⟨_, .cons bare .nil, rfl, rfl⟩).outcome
  have same := (implementation_text_eq_iff (by decide)
    (List.forall_mem_singleton.mpr (by decide)) (List.forall_mem_singleton.mpr (by decide)) success
    otherSuccess).mpr (.cons ⟨rfl, rfl⟩ .nil)
  exact ⟨_, success, otherSuccess.trans (congrArg Except.ok same.symm)⟩

end DrawingCode
