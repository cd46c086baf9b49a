import DrawingCode.Proofs.Generation.Emission

/-! # Why generation fails

Generation fails at the first thing that stands in its way and for the reason that this thing gives.
For the implementation these are items that are no drawing steps and coordinates that are no
numbers, in the order in which code lists them. For the header they are the width and the height of
an image and after these its items, as far as they are no steps. Nothing else is looked at.
-/

namespace DrawingCode

section Computations

variable {ε α β : Type}

/-- Why a computation fails, if it does. -/
def fault? : Except ε α → Option ε
  | .ok _ => none
  | .error e => some e

theorem fault?_eq_some_iff {result : Except ε α} {e : ε} :
    fault? result = some e ↔ result = .error e := by
  cases result with
  | ok a => simp [fault?]
  | error other => simp [fault?]

/-- The first of two computations decides, if it fails. -/
theorem fault?_bind {first : Except ε α} {next : α → Except ε β} {later : Option ε}
    (same : ∀ a, fault? (next a) = later) : fault? (first >>= next) = (fault? first).or later := by
  cases first with
  | ok a => exact same a
  | error e => rfl

private theorem fault?_bind_pure (first : Except ε α) (make : α → β) :
    fault? (first >>= fun a => pure (make a)) = fault? first := by
  cases first <;> rfl

private theorem findSome?_cons_eq_or (f : α → Option β) (a : α) (rest : List α) :
    (a :: rest).findSome? f = (f a).or (rest.findSome? f) := by
  rw [List.findSome?_cons]
  cases f a <;> rfl

/-- Why a run fails, if it does. -/
def Run.fault? (run : Run α) : Option Failure := DrawingCode.fault? run.outcome

theorem Run.fault?_eq_some_iff {run : Run α} {e : Failure} :
    run.fault? = some e ↔ run.outcome = .error e := DrawingCode.fault?_eq_some_iff

theorem Run.exists_error_iff {run : Run α} :
    (∃ e, run.outcome = .error e) ↔ run.fault?.isSome := by
  simp only [Option.isSome_iff_exists, fault?_eq_some_iff]

private theorem Run.fault?_map (f : α → β) (run : Run α) : (run.map f).fault? = run.fault? := by
  unfold fault? map
  cases run.outcome <;> rfl

private theorem Run.fault?_andThen {first : Run α} {next : α → Nat → Run β} {later : Option Failure}
    (same : ∀ a issued, (next a issued).fault? = later) :
    (first.andThen next).fault? = first.fault?.or later := by
  unfold fault? andThen
  cases result : first.outcome with
  | ok a => exact same a first.issued
  | error e => rfl

end Computations

section Coordinates

variable {ε α β : Type}

/-- The coordinates of a point, x before y. -/
def Point.coordinates (p : Point α) : List α := [p.x, p.y]

/-- The coordinates of a step in the order in which code lists them. -/
def Step.coordinates : Step α → List α
  | moveTo point | line point => point.coordinates
  | curve first second target => first.coordinates ++ second.coordinates ++ target.coordinates
  | flatness value | lineWidth value => [value]
  | nonStrokeColor color | strokeColor color => [color.red, color.green, color.blue]
  | appendRectangle rect => [rect.x, rect.y, rect.width, rect.height]
  | concatCTM t => [t.a, t.b, t.c, t.d, t.tx, t.ty]
  | saveGState | restoreGState | closePath | clip _ | endPath | nonStrokeColorSpace | fill _
  | strokeColorSpace | stroke => []

variable (f : α → Except ε β)

private theorem Point.fault?_mapM (p : Point α) :
    fault? (p.mapM f) = p.coordinates.findSome? fun v => fault? (f v) := by
  simp only [coordinates, findSome?_cons_eq_or, List.findSome?_nil]
  exact fault?_bind fun _ => fault?_bind fun _ => rfl

private theorem Size.fault?_mapM (s : Size α) :
    fault? (s.mapM f) = [s.width, s.height].findSome? fun v => fault? (f v) := by
  simp only [findSome?_cons_eq_or, List.findSome?_nil]
  exact fault?_bind fun _ => fault?_bind fun _ => rfl

private theorem Color.fault?_mapM (c : Color α) :
    fault? (c.mapM f) = [c.red, c.green, c.blue].findSome? fun v => fault? (f v) := by
  simp only [findSome?_cons_eq_or, List.findSome?_nil]
  exact fault?_bind fun _ => fault?_bind fun _ => fault?_bind fun _ => rfl

private theorem Rect.fault?_mapM (r : Rect α) :
    fault? (r.mapM f) = [r.x, r.y, r.width, r.height].findSome? fun v => fault? (f v) := by
  simp only [findSome?_cons_eq_or, List.findSome?_nil]
  exact fault?_bind fun _ => fault?_bind fun _ => fault?_bind fun _ => fault?_bind fun _ => rfl

private theorem Transform.fault?_mapM (t : Transform α) : fault? (t.mapM f) =
    [t.a, t.b, t.c, t.d, t.tx, t.ty].findSome? fun v => fault? (f v) := by
  simp only [findSome?_cons_eq_or, List.findSome?_nil]
  exact fault?_bind fun _ => fault?_bind fun _ => fault?_bind fun _ => fault?_bind fun _ =>
    fault?_bind fun _ => fault?_bind fun _ => rfl

/-- A step fails to convert at the first coordinate that does. -/
theorem Step.fault?_mapM (s : Step α) :
    fault? (s.mapM f) = s.coordinates.findSome? fun v => fault? (f v) := by
  cases s with
  | saveGState | restoreGState | closePath | clip | endPath | nonStrokeColorSpace | fill
  | strokeColorSpace | stroke => rfl
  | moveTo point | line point => exact (fault?_bind_pure _ _).trans (point.fault?_mapM f)
  | nonStrokeColor color | strokeColor color =>
    exact (fault?_bind_pure _ _).trans (color.fault?_mapM f)
  | appendRectangle rect => exact (fault?_bind_pure _ _).trans (rect.fault?_mapM f)
  | concatCTM transform => exact (fault?_bind_pure _ _).trans (transform.fault?_mapM f)
  | flatness value | lineWidth value =>
    rw [coordinates, findSome?_cons_eq_or, List.findSome?_nil, Option.or_none]
    exact fault?_bind_pure _ _
  | curve first second target =>
    rw [coordinates, List.findSome?_append, List.findSome?_append, Option.or_assoc]
    simp only [← Point.fault?_mapM]
    exact fault?_bind fun _ => fault?_bind fun _ => fault?_bind_pure _ _

end Coordinates

/-- A value is no number. -/
def Value.Rejected (v : Value) : Prop := ∃ e, v.toDouble = .error e

/-- Why the first of the values that are no numbers is rejected, if there is one. -/
def Value.firstFault? (values : List Value) : Option Failure :=
  (values.findSome? fun v => fault? v.toDouble).map .number

/-- Why no code can be generated for an item, if so: it is no step of a kind, or one of its
coordinates is no number. -/
def Item.drawingFault? : Item → Option Failure
  | .step s => Value.firstFault? s.coordinates
  | other => some (.unsupported other.typeName)

/-- An item is no step of a kind, or one of its coordinates is no number. -/
def Item.Undrawable : Item → Prop
  | .step s => ∃ v ∈ s.coordinates, v.Rejected
  | _ => True

/-- Why an item has no place in a header, if so: it is no step. -/
def Item.declarationFault? (item : Item) : Option Failure :=
  if item.isStep then none else some (.unsupported item.typeName)

namespace Image

/-- Why an image has no function, if so. -/
def drawingFault? (image : Image) : Option Failure :=
  image.route.items.findSome? Item.drawingFault?

/-- Why an image has no declaration, if so. -/
def declarationFault? (image : Image) : Option Failure :=
  (Value.firstFault? [image.route.bounds.width, image.route.bounds.height]).or
    (image.route.items.findSome? Item.declarationFault?)

/-- The size of an image is not given by numbers, or one of its items is no step. -/
def Undeclarable (image : Image) : Prop :=
  image.route.bounds.width.Rejected ∨ image.route.bounds.height.Rejected ∨
    ∃ item ∈ image.route.items, item.isStep = false

end Image

private theorem isSome_firstFault?_iff {values : List Value} :
    (Value.firstFault? values).isSome ↔ ∃ v ∈ values, v.Rejected := by
  have rejected (v : Value) : (fault? v.toDouble).isSome ↔ v.Rejected := by
    rw [Option.isSome_iff_exists]
    exact exists_congr fun e => fault?_eq_some_iff
  rw [Value.firstFault?, Option.isSome_map, List.findSome?_isSome_iff]
  simp only [rejected]

theorem Item.isSome_drawingFault?_iff {item : Item} :
    item.drawingFault?.isSome ↔ item.Undrawable := by
  cases item with
  | step s => exact isSome_firstFault?_iff
  | _ => exact iff_of_true rfl trivial

private theorem Image.isSome_declarationFault?_iff {image : Image} :
    image.declarationFault?.isSome ↔ image.Undeclarable := by
  have misplaced (item : Item) : item.declarationFault?.isSome ↔ item.isStep = false := by
    rw [Item.declarationFault?]
    split_ifs with step <;> simp [step]
  rw [declarationFault?, Option.isSome_or, Bool.or_eq_true, isSome_firstFault?_iff,
    List.findSome?_isSome_iff, Undeclarable]
  simp [misplaced, or_assoc]

namespace Generator

variable {settings : Settings} {functionPrefix toolName : String}

theorem command_fault? (item : Item) (issued : Nat) :
    ((implementation settings).command item issued).fault? = item.drawingFault? := by
  cases item with
  | step s =>
    rw [Item.drawingFault?, Value.firstFault?, ← Step.fault?_mapM]
    simp only [command]
    cases s.mapM Value.toDouble <;> rfl
  | _ => rfl

private theorem header_command_fault? (item : Item) (issued : Nat) :
    ((header functionPrefix toolName).command item issued).fault? = item.declarationFault? := by
  simp only [command, Item.declarationFault?]
  split_ifs <;> rfl

private theorem header_opening_fault? (imageName : String) (size : Size Value) :
    fault? ((header functionPrefix toolName).opening imageName size) =
      Value.firstFault? [size.width, size.height] := by
  rw [Value.firstFault?, ← Size.fault?_mapM]
  simp only [opening]
  cases size.mapM Value.toDouble <;> rfl

variable {generator : Generator}

/-- The run for a route fails for the first item that a command fails for. -/
theorem body_fault? {itemFault? : Item → Option Failure}
    (command : ∀ item issued, (generator.command item issued).fault? = itemFault? item)
    (items : List Item) (issued : Nat) :
    (generator.body items issued).fault? = items.findSome? itemFault? := by
  induction items generalizing issued with
  | nil => rfl
  | cons item rest ih =>
    rw [body, findSome?_cons_eq_or, ← command item issued]
    exact Run.fault?_andThen fun _ afterItem => (Run.fault?_map _ _).trans (ih afterItem)

private theorem imageFunction_fault? {itemFault? : Item → Option Failure}
    (command : ∀ item issued, (generator.command item issued).fault? = itemFault? item)
    (image : Image) (issued : Nat) : (generator.imageFunction image issued).fault? =
      (fault? (generator.opening image.name image.route.bounds.size)).or
        (image.route.items.findSome? itemFault?) :=
  Run.fault?_andThen fun _ afterOpening =>
    (Run.fault?_map _ _).trans (body_fault? command image.route.items afterOpening)

/-- The run for a file fails for the first image that the run for an image fails for. -/
theorem file_fault? {imageFault? : Image → Option Failure}
    (function : ∀ image issued, (generator.imageFunction image issued).fault? = imageFault? image)
    (images : List Image) (issued : Nat) :
    (generator.file images issued).fault? = images.findSome? imageFault? := by
  have blocks : (generator.blocks images issued).fault? = images.findSome? imageFault? := by
    induction images generalizing issued with
    | nil => rfl
    | cons image rest ih =>
      rw [Generator.blocks, findSome?_cons_eq_or, ← function image issued]
      exact Run.fault?_andThen fun _ afterImage => Run.fault?_andThen fun _ _ =>
        (Run.fault?_map _ _).trans (ih afterImage)
  have complete : (generator.file images issued).fault? =
      (generator.blocks images issued).fault?.or none := Run.fault?_andThen fun _ _ => rfl
  rw [complete, Option.or_none, blocks]

private theorem implementation_file_fault? (images : List Image) (issued : Nat) :
    ((implementation settings).file images issued).fault? =
      images.findSome? Image.drawingFault? :=
  file_fault? (fun image => imageFunction_fault? command_fault? image) images issued

private theorem header_file_fault? (images : List Image) (issued : Nat) :
    ((header functionPrefix toolName).file images issued).fault? =
      images.findSome? Image.declarationFault? := by
  apply file_fault?
  intro image issued
  rw [imageFunction_fault? header_command_fault?, header_opening_fault?]
  rfl

end Generator

private theorem Settings.sources_fault? (settings : Settings) (images : List Image) :
    (settings.sources images).fault? = (images.findSome? Image.declarationFault?).or
      (images.findSome? Image.drawingFault?) := by
  rw [← @Generator.header_file_fault? settings.functionPrefix settings.toolName images 0]
  exact Run.fault?_andThen fun _ _ =>
    (Run.fault?_map _ _).trans (Generator.implementation_file_fault? images 0)

/-- Generation fails exactly if there is a fault, and with the first one. The implementation fails
for items, in the order of the images and of their items. The header fails for the width, the height
or the items of an image, in this order. Where both are generated, faults of the header come
first. -/
theorem generation_fails_with_first_fault (images : List Image) :
    (∀ settings start,
      ((∃ e, ((Generator.implementation settings).file images start).outcome = .error e) ↔
        ∃ image ∈ images, ∃ item ∈ image.route.items, item.Undrawable) ∧
      ∀ e, ((Generator.implementation settings).file images start).outcome = .error e ↔
        images.findSome? Image.drawingFault? = some e) ∧
    (∀ functionPrefix toolName start,
      ((∃ e, ((Generator.header functionPrefix toolName).file images start).outcome = .error e) ↔
        ∃ image ∈ images, image.Undeclarable) ∧
      ∀ e, ((Generator.header functionPrefix toolName).file images start).outcome = .error e ↔
        images.findSome? Image.declarationFault? = some e) ∧
    ∀ settings : Settings, ∀ e, (settings.sources images).outcome = .error e ↔
      (images.findSome? Image.declarationFault?).or (images.findSome? Image.drawingFault?) =
        some e := by
  refine ⟨fun settings start => ⟨?_, fun e => ?_⟩,
    fun functionPrefix toolName start => ⟨?_, fun e => ?_⟩, fun settings e => ?_⟩
  · rw [Run.exists_error_iff, Generator.implementation_file_fault?, List.findSome?_isSome_iff]
    simp only [Image.drawingFault?, List.findSome?_isSome_iff, Item.isSome_drawingFault?_iff]
  · rw [← Run.fault?_eq_some_iff, Generator.implementation_file_fault?]
  · rw [Run.exists_error_iff, Generator.header_file_fault?, List.findSome?_isSome_iff]
    simp only [Image.isSome_declarationFault?_iff]
  · rw [← Run.fault?_eq_some_iff, Generator.header_file_fault?]
  · rw [← Run.fault?_eq_some_iff, settings.sources_fault?]

end DrawingCode
