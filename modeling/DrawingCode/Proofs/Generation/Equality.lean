import DrawingCode.Item.Equality
import DrawingCode.Proofs.Generation.Faults
import DrawingCode.Proofs.Value.Equality

/-! # Equal images have the same code

Steps are equal if they are of the same kind and their coordinates are equal, pair by pair, and
equal coordinates stand for the same doubles. So generators cannot tell equal images apart, whether
they succeed or fail. The two zeros are the only equal values that are different doubles, so they
must not stand in for each other.
-/

namespace DrawingCode

section Coordinates

variable {ε α β : Type} {f : α → Except ε β}

/-- Values convert to the same, pair by pair. -/
abbrev ConvertAlike (f : α → Except ε β) : List α → List α → Prop :=
  List.Forall₂ fun v w => f v = f w

private theorem Point.mapM_eq {p q : Point α} (alike : ConvertAlike f p.coordinates q.coordinates) :
    p.mapM f = q.mapM f := by
  simp only [coordinates, List.forall₂_cons] at alike
  simp only [mapM, alike]

/-- Equal steps convert to the same step if their coordinates convert to the same. -/
theorem Step.mapM_eq {f : Value → Except ε β} {s t : Step Value} (same : s.equal t)
    (alike : ConvertAlike f s.coordinates t.coordinates) : s.mapM f = t.mapM f := by
  fun_cases equal s t with
  | case1 p q | case2 p q => simp only [mapM, Point.mapM_eq alike]
  | case3 p q r p' q' r' =>
    simp only [coordinates, Point.coordinates, List.cons_append, List.nil_append,
      List.forall₂_cons] at alike
    simp only [mapM, Point.mapM, alike]
  | case4 p q | case5 p q =>
    simp only [equal, beq_iff_eq] at same
    rw [same]
  | case19 => simp_all [equal]
  | case12 | case13 | case14 | case15 | case16 | case17 | case18 => rfl
  | _ =>
    simp only [coordinates, List.forall₂_cons] at alike
    simp only [mapM, Color.mapM, Rect.mapM, Transform.mapM, alike]

end Coordinates

private theorem Step.kind_of_equal {s t : Step Value} (same : s.equal t) : s.kind = t.kind := by
  fun_cases equal s t with
  | case19 => simp_all [equal]
  | _ => rfl

/-- Equal steps have equal coordinates, pair by pair. -/
theorem Step.coordinates_of_equal {s t : Step Value} (same : s.equal t) :
    List.Forall₂ (fun v w => v.equal w) s.coordinates t.coordinates := by
  fun_cases equal s t with
  | case19 => simp_all [equal]
  | _ =>
    simp_all [equal, coordinates, Point.coordinates, Point.equal, Color.equal, Rect.equal,
      Transform.equal]

/-- The coordinates of an item, if it is a step. -/
def Item.coordinates : Item → List Value
  | .step s => s.coordinates
  | _ => []

/-- The fields of an image that ought to be numbers: the coordinates of its steps and of its
bounds. -/
def Image.numbers (image : Image) : List Value :=
  image.route.items.flatMap Item.coordinates ++ [image.route.bounds.x, image.route.bounds.y,
    image.route.bounds.width, image.route.bounds.height]

/-- Among values in pairs there is no pair of negative zero and another zero. -/
def ZerosAgree (values others : List Value) : Prop :=
  ∀ pair ∈ values.zip others, pair.1.zerosDiffer pair.2 = false

instance (values others : List Value) : Decidable (ZerosAgree values others) :=
  inferInstanceAs (Decidable (∀ pair ∈ values.zip others, pair.1.zerosDiffer pair.2 = false))

/-- Images of the same name with equal routes of drawing steps, where negative zero and other zeros
do not stand in for each other. -/
structure Image.Equals (image other : Image) : Prop where
  name : image.name = other.name
  route : (Item.route image.route.items image.route.bounds).equal
    (.route other.route.items other.route.bounds)
  steps : ∀ item ∈ image.route.items, ∃ s, item = .step s
  zeros : ZerosAgree image.numbers other.numbers

private theorem zerosAgree_append {values others more further : List Value}
    (length : values.length = others.length) :
    ZerosAgree (values ++ more) (others ++ further) ↔
      ZerosAgree values others ∧ ZerosAgree more further := by
  rw [ZerosAgree, List.zip_append length, List.forall_mem_append]
  rfl

/-- Equal values convert alike as long as the zeros among them agree. -/
theorem convertAlike_of_equal {values others : List Value}
    (same : List.Forall₂ (fun v w => v.equal w) values others) (zeros : ZerosAgree values others) :
    ConvertAlike Value.toDouble values others := by
  obtain ⟨length, equal⟩ := List.forall₂_iff_zip.mp same
  exact List.forall₂_iff_zip.mpr
    ⟨length, fun member => Value.toDouble_eq_of_equal (equal member) (zeros _ member)⟩

theorem Item.forall₂_of_equalAll {items others : List Item} (same : equalAll items others) :
    List.Forall₂ (fun item other => item.equal other) items others := by
  induction items generalizing others with
  | nil =>
    obtain rfl := List.isEmpty_iff.mp same
    exact .nil
  | cons item rest ih =>
    cases others with
    | nil => simp [equalAll] at same
    | cons other more =>
      simp only [equalAll, Bool.and_eq_true] at same
      exact .cons same.1 (ih same.2)

theorem Image.Equals.items {image other : Image} (same : image.Equals other) :
    List.Forall₂ (fun item other => item.equal other) image.route.items other.route.items := by
  have route := same.route
  simp only [Item.equal, Bool.and_eq_true] at route
  exact Item.forall₂_of_equalAll route.1

theorem Image.Equals.bounds {image other : Image} (same : image.Equals other) :
    List.Forall₂ (fun v w => v.equal w)
      [image.route.bounds.x, image.route.bounds.y, image.route.bounds.width,
        image.route.bounds.height]
      [other.route.bounds.x, other.route.bounds.y, other.route.bounds.width,
        other.route.bounds.height] := by
  have route := same.route
  simp only [Item.equal, Rect.equal, Bool.and_eq_true] at route
  obtain ⟨_, ⟨⟨x, y⟩, width⟩, height⟩ := route
  exact .cons x (.cons y (.cons width (.cons height .nil)))

private theorem Item.exists_step_of_equal {s : Step Value} {other : Item}
    (same : (step s).equal other) :
    ∃ t, other = step t ∧ s.equal t := by
  cases other with
  | step t => exact ⟨t, rfl, by simpa [equal] using same⟩
  | _ => simp [equal] at same

namespace Generator

variable {generator : Generator}

/-- A generator does the same for two items, whatever the count. -/
def CommandsAlike (generator : Generator) (item other : Item) : Prop :=
  ∀ issued, generator.command item issued = generator.command other issued

private theorem commandsAlike_of_equal {s t : Step Value} (same : s.equal t)
    (zeros : ZerosAgree s.coordinates t.coordinates) :
    generator.CommandsAlike (.step s) (.step t) := by
  intro issued
  cases generator with
  | implementation settings =>
    have color : s.isColor = t.isColor := by
      rw [s.isColor_eq, t.isColor_eq, Step.kind_of_equal same]
    have converted : s.mapM Value.toDouble = t.mapM Value.toDouble :=
      Step.mapM_eq same (convertAlike_of_equal (Step.coordinates_of_equal same) zeros)
    simp only [command, color, converted]
  | header functionPrefix toolName => rfl

/-- The zeros of a route agree if those of its items do, item by item. -/
theorem commandsAlike_of_items {items others : List Item} {more further : List Value}
    (same : List.Forall₂ (fun item other => item.equal other) items others)
    (steps : ∀ item ∈ items, ∃ s, item = .step s)
    (zeros : ZerosAgree (items.flatMap Item.coordinates ++ more)
      (others.flatMap Item.coordinates ++ further)) :
    List.Forall₂ generator.CommandsAlike items others ∧ ZerosAgree more further := by
  induction same with
  | nil => exact ⟨.nil, zeros⟩
  | cons here _ ih =>
    obtain ⟨⟨s, rfl⟩, tail⟩ := List.forall_mem_cons.mp steps
    obtain ⟨t, rfl, equal⟩ := Item.exists_step_of_equal here
    have length : (Item.step s).coordinates.length = (Item.step t).coordinates.length :=
      (Step.coordinates_of_equal equal).length_eq
    rw [List.flatMap_cons, List.flatMap_cons, List.append_assoc, List.append_assoc,
      zerosAgree_append length] at zeros
    obtain ⟨alike, bounds⟩ := ih tail zeros.2
    exact ⟨.cons (commandsAlike_of_equal equal zeros.1) alike, bounds⟩

private theorem body_eq_of_alike {items others : List Item}
    (alike : List.Forall₂ generator.CommandsAlike items others) (issued : Nat) :
    generator.body items issued = generator.body others issued := by
  induction alike generalizing issued with
  | nil => rfl
  | cons here _ ih => simp only [body, here issued, ih]

private theorem opening_eq_of_alike {size other : Size Value} (imageName : String)
    (width : size.width.toDouble = other.width.toDouble)
    (height : size.height.toDouble = other.height.toDouble) :
    generator.opening imageName size = generator.opening imageName other := by
  cases generator with
  | implementation settings => rfl
  | header functionPrefix toolName => simp only [opening, Size.mapM, width, height]

/-- Equal images have the same lines, or fail alike. -/
theorem imageFunction_eq_of_equals {image other : Image} (same : image.Equals other)
    (issued : Nat) : generator.imageFunction image issued =
      generator.imageFunction other issued := by
  obtain ⟨alike, zeros⟩ : List.Forall₂ generator.CommandsAlike _ _ ∧ ZerosAgree _ _ :=
    commandsAlike_of_items same.items same.steps same.zeros
  have fields := convertAlike_of_equal same.bounds zeros
  simp only [List.forall₂_cons] at fields
  obtain ⟨_, _, width, height, _⟩ := fields
  have opening : generator.opening image.name image.route.bounds.size =
      generator.opening image.name other.route.bounds.size := opening_eq_of_alike _ width height
  simp only [imageFunction, ← same.name, opening, body_eq_of_alike alike]

private theorem blocks_eq_of_equals {images others : List Image}
    (same : List.Forall₂ Image.Equals images others) (issued : Nat) :
    generator.blocks images issued = generator.blocks others issued := by
  induction same generalizing issued with
  | nil => rfl
  | cons here _ ih =>
    simp only [Generator.blocks, imageFunction_eq_of_equals here, here.name,
      here.items.length_eq, ih]

/-- Equal images have the same files, or generation fails alike: the runs of a generator on them are
the same runs. -/
theorem equal_images_generate_alike (generator : Generator) {images others : List Image}
    (same : List.Forall₂ Image.Equals images others) (start : Nat) :
    generator.file images start = generator.file others start := by
  rw [file, file, blocks_eq_of_equals same]

/-- A badge whose fields are integers and truth values. -/
def wholeBadge : Image :=
  ⟨"Badge", [.step (.moveTo ⟨.int (2 ^ 53), .bool true⟩), .step (.lineWidth (.double (.zero true))),
    .step (.strokeColor ⟨.int 0, .int (10 ^ 200 * 10 ^ 200), .text "x"⟩)],
    ⟨.null, .bool false, .bool true, .int 64⟩⟩

/-- The same badge with doubles in its fields, as far as there are such doubles. -/
def floatingBadge : Image :=
  ⟨"Badge", [.step (.moveTo ⟨.double (.ofRank false (1076 * 2 ^ 52)), .double .one⟩),
    .step (.lineWidth (.double (.zero true))),
    .step (.strokeColor ⟨.double (.zero false), .int (10 ^ 200 * 10 ^ 200), .text "x"⟩)],
    ⟨.null, .double (.zero false), .double .one, .double (.ofRank false (1029 * 2 ^ 52))⟩⟩

/-- Both badges have the same header, and the implementation fails for both at the green component,
after a number has been taken. -/
theorem equal_images_generate_alike_badge :
    List.Forall₂ Image.Equals [wholeBadge] [floatingBadge] ∧
      (header "" "cggen").file [wholeBadge] 5 = (header "" "cggen").file [floatingBadge] 5 ∧
      (implementation {}).file [wholeBadge] 5 = (implementation {}).file [floatingBadge] 5 ∧
      ((implementation {}).file [wholeBadge] 5).issued = 6 ∧
      ((implementation {}).file [wholeBadge] 5).fault?.map Failure.message =
        some "int too large to convert to float" := by
  have same : List.Forall₂ Image.Equals [wholeBadge] [floatingBadge] :=
    .cons ⟨rfl, by decide +kernel, by simp [wholeBadge], by decide +kernel⟩ .nil
  exact ⟨same, equal_images_generate_alike _ same 5, equal_images_generate_alike _ same 5,
    by decide +kernel, by decide +kernel⟩

end Generator

end DrawingCode
