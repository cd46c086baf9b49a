import DrawingCode.Proofs.Generation.Accounting
import DrawingCode.Proofs.Generation.Closure
import DrawingCode.Proofs.Resource.Event

/-! # Another first number renames the colours

Two runs of the implementation generator over the same images that start with different numbers go
in step: they take numbers at the same items and fail at the same item, and what they emit is the
same but for the names of the colours. A line has a form with a gap for at most one of these names,
and which step the name belongs to is known from the items alone.
-/

namespace DrawingCode

variable {α β γ δ : Type}

/-- Two runs, one of those that start with `m` and one of those that start with `n`, go in step:
they have taken as many numbers, and either both return results that are related at this count, or
both fail for the same reason. -/
inductive Run.InStep (m n : Nat) (related : Nat → α → β → Prop) (one : Run α) (other : Run β) : Prop
  | returns {a : α} {b : β} {taken : Nat} (first : one.Returns a (m + taken))
      (second : other.Returns b (n + taken)) (same : related taken a b)
  | fails {e : Failure} {taken : Nat} (first : one.Fails e (m + taken))
      (second : other.Fails e (n + taken))

namespace Run.InStep

variable {m n : Nat} {related : Nat → α → β → Prop} {one : Run α} {other : Run β}

/-- Behind two runs that return, the runs go in step if those that follow do. -/
theorem andThen_of_returns {later : Nat → γ → δ → Prop} {next : α → Nat → Run γ}
    {otherNext : β → Nat → Run δ} {a : α} {b : β} {taken : Nat} (first : one.Returns a (m + taken))
    (second : other.Returns b (n + taken))
    (behind : InStep m n later (next a (m + taken)) (otherNext b (n + taken))) :
    InStep m n later (one.andThen next) (other.andThen otherNext) := by
  cases behind with
  | returns third fourth result =>
    exact .returns (returns_andThen_iff.mpr ⟨_, _, first, third⟩)
      (returns_andThen_iff.mpr ⟨_, _, second, fourth⟩) result
  | fails third fourth =>
    exact .fails (fails_andThen_iff.mpr (.inr ⟨_, _, first, third⟩))
      (fails_andThen_iff.mpr (.inr ⟨_, _, second, fourth⟩))

theorem andThen {later : Nat → γ → δ → Prop} {next : α → Nat → Run γ} {otherNext : β → Nat → Run δ}
    (here : InStep m n related one other)
    (behind : ∀ {a b taken}, related taken a b →
      InStep m n later (next a (m + taken)) (otherNext b (n + taken))) :
    InStep m n later (one.andThen next) (other.andThen otherNext) := by
  cases here with
  | returns first second same => exact andThen_of_returns first second (behind same)
  | fails first second => exact .fails first.andThen second.andThen

theorem map {later : Nat → γ → δ → Prop} {f : α → γ} {g : β → δ} (here : InStep m n related one other)
    (results : ∀ {a b taken}, related taken a b → later taken (f a) (g b)) :
    InStep m n later (one.map f) (other.map g) := by
  cases here with
  | returns first second same =>
    exact .returns (returns_map_iff.mpr ⟨_, first, rfl⟩) (returns_map_iff.mpr ⟨_, second, rfl⟩)
      (results same)
  | fails first second => exact .fails (fails_map_iff.mpr first) (fails_map_iff.mpr second)

end Run.InStep

namespace Code

/-- Texts that leave a gap for the variable of a colour: no character of an identifier touches it,
and no other colour is mentioned. -/
structure AroundColor (before after : String) : Prop where
  left : before.toList.getLast?.any Text.isWordChar = false
  right : after.toList.head?.any Text.isWordChar = false
  quiet : ∀ id, Resource.color id ∉
    Resource.mentions before.toList ++ Resource.mentions after.toList

/-- The form of a line: it is fixed, or it has a gap for a colour that is counted from the first one
of the run. -/
inductive Form where
  | fixed (line : String)
  | colored (index : Nat) (before after : String) (around : AroundColor before after)

namespace Form

/-- The line of a run that starts with a number. -/
def line (start : Nat) : Form → String
  | fixed line => line
  | colored index before after _ => before ++ colorName (start + index) ++ after

/-- Which of the colours of the run has its name in the line. -/
def owner : Form → Option Nat
  | fixed _ => none
  | colored index _ _ _ => some index

end Form

private theorem aroundColor_created (color : Color Double) : AroundColor "  CGColorRef "
    (" = CGColorCreate(" ++ spaceName ++ ", " ++ componentsText color ++ ");") := by
  have split : (" = CGColorCreate(" ++ spaceName ++ ", " ++ componentsText color ++ ");").toList =
      ' ' :: ("= CGColorCreate".toList ++ '(' :: (Resource.space.name.toList ++
        ',' :: ' ' :: ((componentsText color).toList ++ ')' :: [';']))) := by
    simp [Resource.name]
  have before : Resource.mentions "  CGColorRef ".toList = [] := by decide
  have made : Resource.mentions "= CGColorCreate".toList = [] := by decide
  have ending : Resource.mentions [';'] = [] := by decide
  refine ⟨by decide, ?_, fun id => ?_⟩
  · rw [split, List.head?_cons, Option.any_some, blank_apart]
  · rw [before, split, Resource.mentions_cons blank_apart,
      Resource.mentions_behind parenthesis_apart made, Resource.mentions_append_cons comma_apart,
      Resource.mentions_name, Resource.mentions_cons blank_apart,
      Resource.mentions_append_cons closing_apart, mentions_componentsText, ending]
    simp

private theorem aroundColor_passed {function : String}
    (quiet : Resource.mentions ("  CGContext" ++ function ++ "(context").toList = []) :
    AroundColor ("  CGContext" ++ function ++ "(context" ++ ", ") ");" := by
  have split : ("  CGContext" ++ function ++ "(context" ++ ", ").toList =
      ("  CGContext" ++ function ++ "(context").toList ++ ',' :: [' '] := String.toList_append
  have blank : Resource.mentions [' '] = [] := by decide
  have ending : Resource.mentions ");".toList = [] := by decide
  refine ⟨?_, by decide, fun id => ?_⟩
  · rw [split, List.getLast?_append_cons, List.getLast?_cons_cons, List.getLast?_singleton,
      Option.any_some, blank_apart]
  · rw [split, Resource.mentions_behind comma_apart quiet, blank, ending]
    exact List.not_mem_nil

private theorem aroundColor_released : AroundColor "  CGColorRelease(" ");" := by
  have before : Resource.mentions "  CGColorRelease(".toList = [] := by decide
  have ending : Resource.mentions ");".toList = [] := by decide
  refine ⟨by decide, by decide, fun id => ?_⟩
  rw [before, ending]
  exact List.not_mem_nil

/-- The lines of a colour that is set have one gap each. -/
theorem forms_setColor {function : String} (color : Color Double) (index : Nat)
    (quiet : Resource.mentions ("  CGContext" ++ function ++ "(context").toList = []) :
    ∃ forms : List Form, forms.map Form.owner = [some index, some index, some index] ∧
      ∀ start, (setColor function color (start + index)).map (·.line) =
        forms.map (·.line start) := by
  refine ⟨[.colored index _ _ (aroundColor_created color),
    .colored index _ _ (aroundColor_passed quiet), .colored index _ _ aroundColor_released], rfl, ?_⟩
  intro start
  unfold setColor Statement.line Form.line
  simp only [List.map_cons, List.map_nil, Operand.text, String.append_assoc]

/-- Which of the colours of a run have their names in the lines for something that is a marker, sets
a colour or does neither; the next colour of the run is counted `index`. -/
def lineOwners (index : Nat) (isMarker isColor : Bool) : List (Option Nat) :=
  if isMarker then [] else if isColor then [some index, some index, some index] else [none]

/-- The lines of a step have forms that do not depend on the number that the run starts with. -/
theorem forms_statements (index : Nat) (s : Step Double) :
    ∃ forms : List Form, forms.map Form.owner = lineOwners index s.isMarker s.isColor ∧
      ∀ start, (statements (start + index) s).map (·.line) = forms.map (·.line start) := by
  cases s with
  | nonStrokeColor color => exact forms_setColor color index (by decide)
  | strokeColor color => exact forms_setColor color index (by decide)
  | endPath | nonStrokeColorSpace | strokeColorSpace => exact ⟨[], rfl, fun _ => rfl⟩
  | clip rule | fill rule => cases rule <;> exact ⟨[.fixed _], rfl, fun _ => rfl⟩
  | _ => exact ⟨[.fixed _], rfl, fun _ => rfl⟩

/-- The lines of two runs that start with `m` and `n` have the same forms, and it is given which of
the colours have their names in which lines. -/
def Renames (m n : Nat) (owners : List (Option Nat)) (lines others : List String) : Prop :=
  ∃ forms : List Form, forms.map Form.owner = owners ∧
    lines = forms.map (·.line m) ∧ others = forms.map (·.line n)

namespace Renames

variable {m n : Nat} {owners more : List (Option Nat)} {lines others later behind : List String}

/-- Lines that name no colour are the same in both runs. -/
theorem fixed (lines : List String) :
    Renames m n (lines.map fun _ => none) lines lines := by
  have written (start : Nat) : lines = (lines.map Form.fixed).map (·.line start) := by
    rw [List.map_map]
    exact lines.map_id.symm
  refine ⟨lines.map .fixed, ?_, written m, written n⟩
  rw [List.map_map]
  rfl

theorem append (here : Renames m n owners lines others) (rest : Renames m n more later behind) :
    Renames m n (owners ++ more) (lines ++ later) (others ++ behind) := by
  obtain ⟨forms, rfl, rfl, rfl⟩ := here
  obtain ⟨next, rfl, rfl, rfl⟩ := rest
  exact ⟨forms ++ next, List.map_append, List.map_append.symm, List.map_append.symm⟩

end Renames

/-- The lines of two runs have the same forms, block by block. -/
def BlocksRename (m n : Nat) (owners : List (List (Option Nat))) (blocks others : List (List String)) :
    Prop :=
  ∃ forms : List (List Form), forms.map (·.map Form.owner) = owners ∧
    blocks = forms.map (·.map (·.line m)) ∧ others = forms.map (·.map (·.line n))

theorem BlocksRename.cons {m n : Nat} {owners : List (Option Nat)} {more : List (List (Option Nat))}
    {lines others : List String} {blocks otherBlocks : List (List String)}
    (here : Renames m n owners lines others) (rest : BlocksRename m n more blocks otherBlocks) :
    BlocksRename m n (owners :: more) (lines :: blocks) (others :: otherBlocks) := by
  obtain ⟨forms, rfl, rfl, rfl⟩ := here
  obtain ⟨next, rfl, rfl, rfl⟩ := rest
  exact ⟨forms :: next, rfl, rfl, rfl⟩

end Code

/-- Which of the colours of a run have their names in the lines for items. -/
def bodyOwners : Nat → List Item → List (Option Nat)
  | _, [] => []
  | index, item :: rest => Code.lineOwners index item.isMarker item.isColor ++
    bodyOwners (index + colorCount [item]) rest

example (c : Color Value) :
    bodyOwners 4 [.step (.strokeColor c), .step .endPath, .step .stroke, .step (.nonStrokeColor c)] =
      [some 4, some 4, some 4, none, some 5, some 5, some 5] := rfl

/-- Which of the colours of a run have their names in the lines of a function: none in the two
lines before and the two lines after those for its items. -/
def Image.owners (index : Nat) (image : Image) : List (Option Nat) :=
  [none, none] ++ bodyOwners index image.route.items ++ [none, none]

/-- Which of the colours of a run have their names in the lines for each image. -/
def blockOwners : Nat → List Image → List (List (Option Nat))
  | _, [] => []
  | index, image :: rest =>
    image.owners index :: blockOwners (index + colorCount image.route.items) rest

namespace Generator

variable (settings : Settings) (m n : Nat)

/-- Two runs that have taken the same numbers for the items before draw an item in step. -/
theorem command_inStep (item : Item) (index : Nat) :
    Run.InStep m n (fun taken lines others => taken = index + colorCount [item] ∧
        Code.Renames m n (Code.lineOwners index item.isMarker item.isColor) lines others)
      ((implementation settings).command item (m + index))
      ((implementation settings).command item (n + index)) := by
  have count (start : Nat) : ((implementation settings).command item (start + index)).issued =
      start + (index + colorCount [item]) := by
    rw [issued_command, Nat.add_assoc]
  rcases ((implementation settings).command item (m + index)).returns_or_fails with
    ⟨lines, returns⟩ | ⟨e, fails⟩
  · obtain ⟨s, drawable, rfl, -⟩ := command_returns_iff.mp returns
    obtain ⟨forms, owners, written⟩ := Code.forms_statements index s
    rw [← Item.isMarker_of_drawable drawable, ← Item.isColor_of_drawable drawable] at owners
    have other : ((implementation settings).command item (n + index)).Returns _ _ :=
      command_returns_iff.mpr ⟨s, drawable, rfl, rfl⟩
    exact .returns ⟨returns.outcome, count m⟩ ⟨other.outcome, count n⟩
      ⟨rfl, forms, owners, written m, written n⟩
  · have fault := Run.fault?_eq_some_iff.mpr fails.outcome
    rw [command_fault?, ← command_fault? item (n + index)] at fault
    exact .fails ⟨fails.outcome, count m⟩ ⟨Run.fault?_eq_some_iff.mp fault, count n⟩

private theorem body_inStep (items : List Item) (index : Nat) :
    Run.InStep m n (fun taken lines others => taken = index + colorCount items ∧
        Code.Renames m n (bodyOwners index items) lines others)
      ((implementation settings).body items (m + index))
      ((implementation settings).body items (n + index)) := by
  induction items generalizing index with
  | nil => exact .returns ⟨rfl, rfl⟩ ⟨rfl, rfl⟩ ⟨rfl, .fixed []⟩
  | cons item rest ih =>
    apply (command_inStep settings m n item index).andThen
    rintro lines others _ ⟨rfl, here⟩
    apply (ih (index + colorCount [item])).map
    rintro later behind _ ⟨rfl, there⟩
    refine ⟨?_, here.append there⟩
    rw [Nat.add_assoc, ← colorCount_append, List.singleton_append]

private theorem imageFunction_inStep (image : Image) (index : Nat) :
    Run.InStep m n (fun taken lines others => taken = index + colorCount image.route.items ∧
        Code.Renames m n (image.owners index) lines others)
      ((implementation settings).imageFunction image (m + index))
      ((implementation settings).imageFunction image (n + index)) := by
  have opened (start : Nat) : (Run.ofExcept ((implementation settings).opening image.name
      image.route.bounds.size) (start + index)).Returns _ (start + index) := ⟨rfl, rfl⟩
  apply Run.InStep.andThen_of_returns (opened m) (opened n)
  apply (body_inStep settings m n image.route.items index).map
  rintro lines others _ ⟨rfl, inside⟩
  exact ⟨rfl, (Code.Renames.fixed [_, _]).append inside |>.append (.fixed [_, _])⟩

private theorem blocks_inStep (images : List Image) (index : Nat) :
    Run.InStep m n (fun _ => Code.BlocksRename m n (blockOwners index images))
      ((implementation settings).blocks images (m + index))
      ((implementation settings).blocks images (n + index)) := by
  induction images generalizing index with
  | nil => exact .returns ⟨rfl, rfl⟩ ⟨rfl, rfl⟩ ⟨[], rfl, rfl, rfl⟩
  | cons image rest ih =>
    apply (imageFunction_inStep settings m n image index).andThen
    rintro lines others taken ⟨same, here⟩
    rw [blockOwners, ← same]
    have recorded (start : Nat) (entry : LogEvent) :
        (Run.mk (.ok ()) (start + taken) [entry]).Returns () (start + taken) := ⟨rfl, rfl⟩
    apply Run.InStep.andThen_of_returns (recorded m _) (recorded n _)
    exact (ih taken).map fun behind => .cons here behind

/-- The runs of the implementation generator over the same images from two first numbers take as
many numbers, and both return or both fail for the same reason. If they return, the lines for each
image are the same in both but for the names of the colours, one name in each of the three lines of
the step that takes its number. -/
theorem starts_only_rename (images : List Image) :
    Run.InStep m n (fun taken text otherText => ∃ blocks others,
        ((implementation settings).blocks images m).Returns blocks (m + taken) ∧
        text = (implementation settings).fileText blocks ∧
        ((implementation settings).blocks images n).Returns others (n + taken) ∧
        otherText = (implementation settings).fileText others ∧
        Code.BlocksRename m n (blockOwners 0 images) blocks others)
      ((implementation settings).file images m) ((implementation settings).file images n) := by
  cases blocks_inStep settings m n images 0 with
  | returns first second same =>
    exact .returns (file_returns_iff.mpr ⟨_, first, rfl⟩) (file_returns_iff.mpr ⟨_, second, rfl⟩)
      ⟨_, _, first, rfl, second, rfl, same⟩
  | fails first second => exact .fails first.andThen second.andThen

end Generator

end DrawingCode
